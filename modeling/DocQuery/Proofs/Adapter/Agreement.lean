import Mathlib.Data.List.Basic
import DocQuery.Proofs.Adapter.Reading
import DocQuery.Regex.Engine

/-!
# The ways of reading agree

A search with a sort, the query as a pipeline, its pages on every engine, the count and the first
match tell the same of a collection, and fail for the same cause.
-/
namespace DocQuery

/-- Two errors of one cause: they are the same, or a failure of the store that was asked by two
adapters or by two native queries. -/
inductive QueryError.SameCause : QueryError → QueryError → Prop where
  | same (e : QueryError) : SameCause e e
  | store (module module' : String) (query query' : Json) (failure : StoreFailure) :
    SameCause (.store module query failure) (.store module' query' failure)

/-- Two outcomes that agree: what they give is related, or they fail for one cause. -/
inductive Outcome.Agree {α β : Type} (related : α → β → Prop) :
    Except QueryError α → Except QueryError β → Prop where
  | ok {x : α} {y : β} (h : related x y) : Agree related (.ok x) (.ok y)
  | error {e e' : QueryError} (h : e.SameCause e') : Agree related (.error e) (.error e')

/-- The first match is the first of a search, and there is none if the search finds nothing. -/
inductive Adapter.FirstOf (A : Adapter) :
    Except QueryError (List Json) → Except QueryError Json → Prop where
  | found (x : Json) (xs : List Json) : A.FirstOf (.ok (x :: xs)) (.ok x)
  | missing : A.FirstOf (.ok []) (.error (.notFound A.module .noMatch))
  | error {e e' : QueryError} (h : e.SameCause e') : A.FirstOf (.error e) (.error e')

namespace Adapter

/-- What a caller sees of stored documents. -/
def shown (documents : List Json) : List Json := documents.map (Document.without internalId)

theorem read_json (d : Json) : Document.read d = .ok (Document.without internalId d) := rfl

theorem mapM_read_json (documents : List Json) :
    documents.mapM (Document.read (α := Json)) = .ok (shown documents) :=
  Outcome.mapM_eq_ok_map fun d _ => read_json d

theorem sameCause_rejected (A B : Adapter) (query query' : Json) (fault : CommandFault) :
    (A.rejected query fault).SameCause (B.rejected query' fault) :=
  .store _ _ _ _ _

section

variable [PatternEngine]

/-- The first `n` pages of a query, read one after the other. -/
def pages (A : Adapter) (e : Expr) (spec : SortSpec) (limit : UInt64) (n : Nat) :
    Action Collection (List (Page Json)) :=
  (List.range n).mapM fun i =>
    A.paginate (.page e spec ⟨UInt64.ofNat (i * limit.toNat), limit⟩)

variable {s : Session Collection} {e : Expr} {f : Json} {spec : SortSpec}

theorem mapM_paginate (A : Adapter) (hs : s.state.Ready) (hf : Native.filter e = .ok f)
    (hspec : spec.Named) {found : List Json}
    (hq : Documents.query f (some (Native.sort spec)) s.state.documents = .ok found)
    (windows : List Paginate) (hw : ∀ w ∈ windows, 0 < w.limit) :
    ∃ t, (windows.mapM fun w => (A.paginate (.page e spec w) : Action Collection (Page Json))) s =
        (.ok (windows.map fun w => ⟨A.totalOf found.length, w.view (shown found)⟩), t) ∧
      t.state.documents = s.state.documents := by
  induction windows generalizing s with
  | nil => exact ⟨s, rfl, rfl⟩
  | cons w windows ih =>
    obtain ⟨hpos, hrest⟩ := List.forall_mem_cons.mp hw
    have hpage := A.paginate_found hs hf hspec hq (fun d _ => read_json d) hpos
    obtain ⟨t, hpages, hkept⟩ := ih (s := s.withState (s.state.ran _)) (hs.ran _) hq hrest
    refine ⟨t, ?_, hkept⟩
    rw [List.mapM_cons, Outcome.bind_of_ok hpage, Outcome.bind_of_ok hpages]
    rfl

/-- Enough pages side by side are everything that the query finds. -/
theorem pages_found (A : Adapter) (hs : s.state.Ready) (hf : Native.filter e = .ok f)
    (hspec : spec.Named) {found : List Json}
    (hq : Documents.query f (some (Native.sort spec)) s.state.documents = .ok found)
    {limit : UInt64} (hlimit : 0 < limit) {n : Nat} (hall : found.length ≤ n * limit.toNat)
    (hfit : ∀ i < n, i * limit.toNat < UInt64.size) :
    ∃ read t, A.pages e spec limit n s = (.ok read, t) ∧ read.flatMap Page.data = shown found ∧
      t.state.documents = s.state.documents := by
  let windows := (List.range n).map fun i => Paginate.mk (UInt64.ofNat (i * limit.toNat)) limit
  have hpos : ∀ w ∈ windows, 0 < w.limit := by
    intro w hw
    obtain ⟨i, -, rfl⟩ := List.mem_map.mp hw
    exact hlimit
  obtain ⟨t, hpages, hkept⟩ := A.mapM_paginate hs hf hspec hq windows hpos
  rw [List.mapM_map] at hpages
  refine ⟨_, t, hpages, ?_, hkept⟩
  have hview : ∀ i ∈ List.range n,
      Paginate.view ⟨UInt64.ofNat (i * limit.toNat), limit⟩ (shown found) =
        ((shown found).drop (i * limit.toNat)).take limit.toNat := by
    intro i hi
    have hskip := UInt64.toNat_ofNat_of_lt' (hfit i (List.mem_range.mp hi))
    rw [Paginate.view, hskip]
  have hlength : (shown found).length ≤ n * limit.toNat := by
    rwa [shown, List.length_map]
  rw [List.flatMap_map, List.flatMap_map, List.flatMap_congr hview, flatMap_windows,
    List.take_of_length_le hlength]

/-- What a search with a sort finds is what the pipeline lists, what the count counts and what the
pages show; the first match is the first that a search without a sort finds. One of them fails just
if the others do, for the same cause, and none changes the documents. -/
theorem reads_agree (A B : Adapter) (module : String) (e : Expr) {spec : SortSpec}
    (hspec : spec.Named) {w : Paginate} (hw : 0 < w.limit) {s : Session Collection}
    (hs : s.state.Ready) :
    let found := (A.find e (some spec) : Action Collection (List Json)) s
    let unsorted := (A.find e none : Action Collection (List Json)) s
    let paged := (B.paginate (.page e spec w) : Action Collection (Page Json)) s
    let listed := ((plain module).aggregate (.query e spec) : Action Collection (List Json)) s
    let counted := B.count e s
    let first := (B.findOne e : Action Collection Json) s
    Outcome.Agree (fun xs page => page.data = w.view xs ∧ page.metadata = B.totalOf xs.length)
        found.1 paged.1 ∧
      Outcome.Agree (fun xs ys => ys = xs) found.1 listed.1 ∧
      Outcome.Agree (fun xs n => n = xs.length) found.1 counted.1 ∧
      B.FirstOf unsorted.1 first.1 ∧
      (∀ xs n, found.1 = .ok xs → xs.length ≤ n * w.limit.toNat →
        (∀ i < n, i * w.limit.toNat < UInt64.size) →
        ∃ read t, B.pages e spec w.limit n s = (.ok read, t) ∧ read.flatMap Page.data = xs ∧
          t.state.documents = s.state.documents) ∧
      ∀ t ∈ [found.2, unsorted.2, paged.2, listed.2, counted.2, first.2],
        t.state.documents = s.state.documents := by
  intro found unsorted paged listed counted first
  cases hf : Native.filter e with
  | error err =>
    have hfound : found = (.error err, s) := find_uncompiled hf A (some spec)
    have hunsorted : unsorted = (.error err, s) := find_uncompiled hf A none
    have hpaged : paged = (.error err, s) := paginate_uncompiled hf B hspec hw
    have hlisted : listed = (.error err, s) := aggregate_uncompiled hf module hspec
    have hcounted : counted = (.error err, s) := count_uncompiled hf B
    have hfirst : first = (.error err, s) := findOne_uncompiled hf B
    rw [hfound, hunsorted, hpaged, hlisted, hcounted, hfirst]
    refine ⟨.error (.same err), .error (.same err), .error (.same err), .error (.same err), ?_, ?_⟩
    · intro xs n hxs
      cases hxs
    · simp
  | ok f =>
    obtain ⟨keys, hkeys⟩ := Documents.exists_sortKeys spec
    have hquery := Documents.query_sorted hkeys
    have hfound : found = _ := A.find_sorted hs hf hspec
    have hunsorted : unsorted = _ := A.find_unsorted hs hf
    have hpaged : paged = _ := B.paginate_ready hs hf hspec hw
    have hlisted : listed = _ := aggregate_ready module hs hf hspec
    have hcounted : counted = _ := B.count_ready hs hf
    have hfirst : first = _ := B.findOne_ready hs hf
    rw [hquery] at hfound hpaged hlisted
    cases hselect : Documents.select f s.state.documents with
    | error fault =>
      rw [hselect] at hfound hunsorted hpaged hlisted hcounted hfirst
      rw [hfound, hunsorted, hpaged, hlisted, hcounted, hfirst]
      have hsame := fun query query' => sameCause_rejected A B query query' fault
      refine ⟨.error (hsame ..), .error (sameCause_rejected ..), .error (hsame ..),
        .error (sameCause_rejected ..), ?_, ?_⟩
      · intro xs n hxs
        cases hxs
      · simp [Session.withState]
    | ok chosen =>
      rw [hselect] at hfound hunsorted hpaged hlisted hcounted hfirst
      simp only [Except.map, Outcome.mapError_ok, Except.bind, mapM_read_json]
        at hfound hunsorted hpaged hlisted hcounted hfirst
      have hlength : (shown (Documents.sorted keys chosen)).length = chosen.length := by
        rw [shown, List.length_map, Documents.sorted_length]
      rw [hfound, hunsorted, hpaged, hlisted, hcounted, hfirst]
      refine ⟨.ok ⟨?_, ?_⟩, .ok rfl, .ok hlength.symm, ?_, ?_, ?_⟩
      · exact Paginate.map_view w _ _
      · rw [hlength, Documents.sorted_length]
      · cases chosen with
        | nil => exact .missing
        | cons d rest => exact .found _ _
      · intro xs n hxs hall hfit
        cases hxs
        have hq := hquery f s.state.documents
        rw [hselect] at hq
        rw [hlength, ← Documents.sorted_length keys] at hall
        exact B.pages_found hs hf hspec hq hw hall hfit
      · simp [Session.withState]

end

/-- A page on an engine that counts, of a query that finds two of three documents. -/
theorem reads_agree_two_found :
    let s := Collection.holding [.object [("_id", .int 1), ("k", .string "b"), ("n", .int 2)],
      .object [("_id", .int 2), ("k", .string "a"), ("n", .int 1)],
      .object [("_id", .int 3), ("n", .string "x")]]
    let e : Expr := .condition ⟨.notEquals, ⟨"k", none⟩, .literal (.string "a")⟩
    let spec : SortSpec := ⟨[⟨⟨"n", none⟩, .descending⟩]⟩
    let w : Paginate := ⟨1, 1⟩
    let A := plain "CASES"
    let B : Adapter := ⟨"CASES", .cosmos, some 25⟩
    (spec.Named ∧ 0 < w.limit ∧ s.state.Ready) ∧
      Outcome.Agree (fun xs page => page.data = w.view xs ∧ page.metadata = B.totalOf xs.length)
        ((A.find e (some spec) : Action Collection (List Json)) s).1
        ((B.paginate (.page e spec w) : Action Collection (Page Json)) s).1 ∧
      (B.count e s).1 = .ok 2 := by
  intro s e spec w A B
  have hspec : spec.Named := ⟨rfl, by decide⟩
  have hw : 0 < w.limit := by decide
  have hs : s.state.Ready := Collection.ready_holding _
  exact ⟨⟨hspec, hw, hs⟩, (reads_agree A B "CASES" e hspec hw hs).1, rfl⟩

end Adapter
end DocQuery
