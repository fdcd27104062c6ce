import DocQuery.Eval.Path

/-!
# Paths and documents with one path

Different paths have different keys on the way. So a document that is nested along one path can be
changed at its end without a change at any other path, apart from those on the way. A name without a
dot is its own and only key, and the first key of a name with dots is another name.
-/
namespace DocQuery

namespace Path

theorem split_eq_splitOn (cs : List Char) : split cs = cs.splitOn '.' := by
  induction cs with
  | nil => rfl
  | cons c cs ih =>
    rw [split, ih, List.splitOn, List.splitOn, List.splitOnP_cons_eq_if_modifyHead]
    by_cases hc : c = '.'
    · simp [hc]
    · cases hparts : cs.splitOnP (· == '.') with
      | nil => exact absurd hparts (List.splitOnP_ne_nil _ cs)
      | cons part rest => simp [hc]

theorem keys_injective {path path' : String} (h : keys path = keys path') : path = path' := by
  have hparts : split path.toList = split path'.toList :=
    (List.map_inj_right fun _ _ hparts => String.ofList_injective hparts).mp h
  have hjoined := congrArg (List.intercalate ['.']) hparts
  rw [split_eq_splitOn, split_eq_splitOn, List.intercalate_splitOn,
    List.intercalate_splitOn] at hjoined
  exact String.toList_injective hjoined

/-- A name that is read as a path of several keys. -/
def Dotted (path : String) : Prop := '.' ∈ path.toList

instance : DecidablePred Dotted := fun path => inferInstanceAs (Decidable ('.' ∈ path.toList))

theorem split_of_not_mem {cs : List Char} (h : '.' ∉ cs) : split cs = [cs] := by
  induction cs with
  | nil => rfl
  | cons c cs ih =>
    rw [List.mem_cons, not_or] at h
    obtain ⟨hc, hcs⟩ := h
    rw [split, if_neg fun heq => hc heq.symm, ih hcs]

theorem exists_split (cs : List Char) : ∃ part rest, split cs = part :: rest ∧ '.' ∉ part := by
  induction cs with
  | nil => exact ⟨[], [], rfl, List.not_mem_nil⟩
  | cons c cs ih =>
    rw [split]
    by_cases hc : c = '.'
    · exact ⟨[], split cs, if_pos hc, List.not_mem_nil⟩
    · obtain ⟨part, rest, hsplit, hpart⟩ := ih
      refine ⟨c :: part, rest, ?_, ?_⟩
      · rw [if_neg hc, hsplit]
      · rw [List.mem_cons, not_or]
        exact ⟨fun heq => hc heq.symm, hpart⟩

theorem keys_of_not_dotted {path : String} (h : ¬ Dotted path) : keys path = [path] := by
  rw [keys, split_of_not_mem h, List.map_singleton, String.ofList_toList]

theorem exists_keys (path : String) : ∃ key rest, keys path = key :: rest ∧ ¬ Dotted key := by
  obtain ⟨part, rest, hsplit, hpart⟩ := exists_split path.toList
  refine ⟨String.ofList part, rest.map String.ofList, ?_, ?_⟩
  · rw [keys, hsplit, List.map_cons]
  · rwa [Dotted, String.toList_ofList]

end Path

namespace Json

def follow (keys : List String) (d : Json) : Option Json :=
  keys.foldlM (fun (current : Json) key => current.get? key) d

theorem resolve_eq_follow (d : Json) (path : String) : d.resolve path = d.follow (Path.keys path) :=
  rfl

theorem follow_cons (key : String) (keys : List String) (d : Json) :
    d.follow (key :: keys) = (d.get? key).bind (follow keys) := rfl

theorem resolve_key {key : String} (h : Path.keys key = [key]) (d : Json) :
    d.resolve key = d.get? key := by
  rw [Json.resolve, h, List.foldlM_cons]
  cases d.get? key <;> rfl

/-- At a path of several keys, documents are read alike that have alike members under every other
name than the path itself. -/
theorem resolve_congr_of_dotted {path : String} {d d' : Json} (h : Path.Dotted path)
    (hget : ∀ key, key ≠ path → d.get? key = d'.get? key) : d.resolve path = d'.resolve path := by
  obtain ⟨key, rest, hkeys, hkey⟩ := Path.exists_keys path
  have hne : key ≠ path := by
    rintro rfl
    exact hkey h
  rw [resolve_eq_follow, resolve_eq_follow, hkeys, follow_cons, follow_cons, hget key hne]

/-- The document with a value at the end of a list of keys, and with no other member. -/
def nested (keys : List String) (value : Json) : Json := keys.foldr single value

theorem get?_single (key other : String) (value : Json) :
    (single key value).get? other = if other = key then some value else none := by
  by_cases h : other = key
  · simp [single, get?, h]
  · simp [single, get?, List.lookup_cons, beq_eq_false_iff_ne.mpr h, h]

theorem follow_nested (keys : List String) (value : Json) :
    (nested keys value).follow keys = some value := by
  induction keys with
  | nil => rfl
  | cons key keys ih =>
    have hget : (nested (key :: keys) value).get? key = some (nested keys value) := by
      rw [nested, List.foldr_cons, get?_single, if_pos rfl]
      rfl
    rw [follow_cons, hget]
    exact ih

end Json
end DocQuery
