import DocQuery.Query.Expr
import DocQuery.JsonText.Printer

/-!
# Malformed requests

Every way in which a query, a pipeline or what is passed along with it can be ill formed, with the
text that reports it.
-/
namespace DocQuery

inductive Malformation where
  | missingLeft (kind : ConditionKind)
  | unnamedRight (kind : ConditionKind) (left : String)
  | invalidOperand (kind : ConditionKind) (left : String) (literal : Json)
  | noStages
  | paginateBeforeEnd (position total : Nat)
  | noSortKeys
  | zeroLimit
  | unnamedField (stage : String)
  | unnamedCollection (field : String)
  | noFields (stage : String)
  | emptyVector
  | zeroCandidates
  | nonFiniteVector
  | invalidObjectId (text : String)
  | severalFacets (count : Nat)
  | facetDataNotList (data : Json)
  | documentNotObject
  | paginateRequired
  | pageRequired
  | wrongEventType (documentType expected : String)
  deriving Repr

def Malformation.message : Malformation → String
  | .missingLeft kind => kind.name ++ " condition is missing its left field"
  | .unnamedRight kind left =>
    kind.name ++ " condition on '" ++ left ++ "' compares against an unnamed field"
  | .invalidOperand kind left literal =>
    kind.name ++ " condition on '" ++ left ++ "' has an invalid operand: " ++ literal.text
  | .noStages => "pipeline has no stages"
  | .paginateBeforeEnd position total =>
    "PAGINATE must be the terminal stage (found at position " ++ position.repr ++ " of " ++
      total.repr ++ ")"
  | .noSortKeys => "SORT stage has no sort keys"
  | .zeroLimit => "PAGINATE limit must be greater than 0"
  | .unnamedField stage => stage ++ " stage references an unnamed field"
  | .unnamedCollection field =>
    "JOIN foreign field '" ++ field ++ "' does not name its collection"
  | .noFields stage => stage ++ " stage has no fields"
  | .emptyVector => "VECTOR_SEARCH query vector is empty"
  | .zeroCandidates => "VECTOR_SEARCH k must be greater than 0"
  | .nonFiniteVector => "VECTOR_SEARCH query vector contains a non-finite value"
  | .invalidObjectId text => "'" ++ text ++ "' is not a valid object id"
  | .severalFacets count => "expected a single facet document, got " ++ count.repr
  | .facetDataNotList data => "facet data branch is not an array: " ++ data.text
  | .documentNotObject => "documents must serialize to objects"
  | .paginateRequired => "paginate requires a pipeline ending in a PAGINATE stage"
  | .pageRequired =>
    "Case Search requires a pagination predicate with a valid limit and offset"
  | .wrongEventType documentType expected =>
    "document type " ++ documentType ++ " is not a " ++ expected ++ "* event"

end DocQuery
