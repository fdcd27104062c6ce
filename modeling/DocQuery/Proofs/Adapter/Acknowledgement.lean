import DocQuery.Proofs.Adapter.Asking

/-!
# Writes that a store does not acknowledge

A store says in its reply whether it acknowledges a write, next to what it has counted. The
insertion of one document and a replacement fail without the acknowledgement. The insertion of
several documents and an update look at the counts alone, so they succeed without it whenever the
counts are right.
-/
namespace DocQuery

namespace Adapter
open Outcome

variable {α β : Type} (A : Adapter) {s : Session Scripted}

/-- A call and what comes after it fail if the reply is a failure, or if the rest fails on it. -/
theorem failsAt_answer_iff (query : Json) (name : String) (args : List Json) (read : Reply → α)
    {next : α → Action Scripted β} :
    FailsAt (A.ask query (Scripted.answer name args read) >>= next) s ↔
      (s.state.upcoming.failure = none → FailsAt (next (read s.state.upcoming))
        (Scripted.recorded (.array (.string name :: args)) s)) := by
  have hask := A.ask_answer (s := s) query name args read
  cases hfailure : s.state.upcoming.failure with
  | some failure =>
    rw [hfailure] at hask
    exact iff_of_true (.bind_left ⟨_, congrArg Prod.fst hask⟩) nofun
  | none =>
    rw [hfailure] at hask
    rw [FailsAt, bind_of_ok hask]
    exact ⟨fun h _ => h, fun h => h rfl⟩

theorem not_failsAt_pure (x : α) : ¬ FailsAt (pure x : Action Scripted α) s := by
  rintro ⟨e, he⟩
  cases he

variable [Document α]

theorem failsAt_insertOne (h : s.state.upcoming.acknowledged = false) (item : α) :
    FailsAt (A.insertOne item) s := by
  refine .bind fun ⟨document, id⟩ t hid => ?_
  refine (A.failsAt_answer_iff _ "insert_one" _ Reply.acknowledged).mpr fun _ => ?_
  rw [Document.state_of_identified hid, h]
  exact ⟨_, rfl⟩

theorem failsAt_replaceOne (h : s.state.upcoming.acknowledged = false) (query : Expr) (item : α)
    (upsert : Bool) : FailsAt (A.replaceOne query item upsert) s := by
  refine .bind fun filter r hf => ?_
  obtain ⟨-, rfl⟩ := Prod.mk.inj ((liftExcept_apply _ s).symm.trans hf)
  refine .bind fun ⟨document, id⟩ t hid => ?_
  refine (A.failsAt_answer_iff _ "replace_one" _ _).mpr fun _ => ?_
  split
  · cases upsert <;> exact ⟨_, rfl⟩
  · next hacknowledged =>
    have hreply : ¬ (!t.state.upcoming.acknowledged) = true := hacknowledged
    rw [Document.state_of_identified hid, h] at hreply
    exact absurd rfl hreply

theorem failsAt_insertMany_iff (items : List α) :
    FailsAt (A.insertMany items) s ↔
      ¬ ((∀ item ∈ items, (Document.encode item).isObject = true) ∧
        s.state.upcoming.failure = none ∧ s.state.upcoming.inserted = items.length) := by
  by_cases hobjects : ∀ item ∈ items, (Document.encode item).isObject = true
  · obtain ⟨prepared, t, hprepared, hlength, hstate⟩ := Document.exists_prepared hobjects s
    rw [insertMany, FailsAt, bind_of_ok hprepared]
    refine (A.failsAt_answer_iff _ "insert_many" _ _).trans ?_
    rw [hstate, and_iff_right hobjects, not_and]
    refine forall_congr' fun _ => ?_
    rw [List.length_map, hlength]
    split
    · next hcount => exact iff_of_false (not_failsAt_pure _) (not_not_intro hcount)
    · next hcount => exact iff_of_true ⟨_, rfl⟩ hcount
  · refine iff_of_true ?_ fun h => hobjects h.1
    obtain ⟨item, hitem, hnot⟩ := not_forall₂.mp hobjects
    exact .bind_left (Document.failsAt_prepare hitem (Bool.eq_false_iff.mpr hnot) s)

theorem failsAt_updateOne_iff (query : Expr) (patch : Json) :
    FailsAt (A.updateOne query patch) s ↔
      ¬ ((∃ f, Native.filter query = .ok f) ∧
        s.state.upcoming.failure = none ∧ 0 < s.state.upcoming.matched) := by
  cases hf : Native.filter query with
  | error err =>
    rw [updateOne, hf]
    refine iff_of_true ⟨err, rfl⟩ ?_
    rintro ⟨⟨f, ⟨⟩⟩, -⟩
  | ok f =>
    rw [updateOne, hf]
    refine (A.failsAt_answer_iff _ "update_one" _ _).trans ?_
    rw [and_iff_right ⟨f, rfl⟩, not_and]
    refine forall_congr' fun _ => ?_
    split
    · next hcount => exact iff_of_true ⟨_, rfl⟩ (Nat.not_lt.mpr (Nat.le_of_eq hcount))
    · next hcount =>
      exact iff_of_false (not_failsAt_pure _) (not_not_intro (Nat.pos_of_ne_zero hcount))

end Adapter

namespace AdapterCall
open Outcome

variable {α β : Type} [Document α]

inductive Puts : {β : Type} → AdapterCall α β → Prop where
  | insertOne (item : α) : Puts (.insertOne item)
  | insertMany (items : List α) : Puts (.insertMany items)
  | replaceOne (query : Expr) (item : α) (upsert : Bool) : Puts (.replaceOne query item upsert)
  | updateOne (query : Expr) (patch : Json) : Puts (.updateOne query patch)

/-- The operations that succeed on a reply whether it acknowledges the write or not. -/
def Overlooks (reply : Reply) : AdapterCall α β → Prop
  | .insertMany items =>
    (∀ item ∈ items, (Document.encode item).isObject = true) ∧
      reply.failure = none ∧ reply.inserted = items.length
  | .updateOne query _ =>
    (∃ f, Native.filter query = .ok f) ∧ reply.failure = none ∧ 0 < reply.matched
  | _ => False

/-- On a reply that acknowledges nothing, whatever it counts, a write fails unless it is the
insertion of several objects, all of which are counted as inserted, or an update by a query that
compiles, for which a match is counted. -/
theorem failsAt_unacknowledged_iff (A : Adapter) {call : AdapterCall α β} {s : Session Scripted}
    (hputs : call.Puts) (h : s.state.upcoming.acknowledged = false) :
    FailsAt (call.perform A) s ↔ ¬ call.Overlooks s.state.upcoming := by
  cases hputs with
  | insertOne item => exact iff_of_true (A.failsAt_insertOne h item) id
  | replaceOne query item upsert => exact iff_of_true (A.failsAt_replaceOne h query item upsert) id
  | insertMany items => exact A.failsAt_insertMany_iff items
  | updateOne query patch => exact A.failsAt_updateOne_iff query patch

/-- A replacement that is counted as an insertion, but not acknowledged. -/
theorem failsAt_unacknowledged_iff_upserted :
    let reply : Reply := { acknowledged := false, matched := 1, modified := 1, upserted := true }
    let s : Session Scripted := ⟨⟨ObjectId.ofNat, Nat.repr, 0⟩, ⟨[reply], []⟩⟩
    let query : Expr := .condition ⟨.equals, ⟨"a", none⟩, .literal (.int 1)⟩
    let call : AdapterCall Json String := .replaceOne query (.object [("a", .int 2)]) true
    (call.Puts ∧ s.state.upcoming.acknowledged = false) ∧
      FailsAt (call.perform (.plain "CASES")) s := by
  intro reply s query call
  have hputs : call.Puts := .replaceOne query _ true
  exact ⟨⟨hputs, rfl⟩, (failsAt_unacknowledged_iff (.plain "CASES") hputs rfl).mpr id⟩

/-- A write that is not acknowledged may be reported as successful. -/
theorem exists_unacknowledged_ok :
    ¬ ∀ (β : Type) (A : Adapter) (call : AdapterCall Json β) (s : Session Scripted),
      call.Puts → s.state.upcoming.acknowledged = false → FailsAt (call.perform A) s := by
  intro h
  let reply : Reply := { acknowledged := false, inserted := 1 }
  obtain ⟨e, he⟩ := h _ (.plain "CASES") (.insertMany [.object [("a", .int 1)]])
    ⟨⟨ObjectId.ofNat, Nat.repr, 0⟩, ⟨[reply], []⟩⟩ (.insertMany _) rfl
  cases he

end AdapterCall
end DocQuery
