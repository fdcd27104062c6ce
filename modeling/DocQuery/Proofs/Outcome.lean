/-!
# Computations that may fail

How a list of checks or conversions turns out as a whole, and how actions on a state are run one
after the other: an action that fails ends the run and leaves the state that it had reached.
-/
namespace DocQuery.Outcome

variable {ε α β σ : Type}

theorem forM_eq_ok_iff {f : α → Except ε PUnit} {xs : List α} :
    xs.forM f = .ok ⟨⟩ ↔ ∀ x ∈ xs, f x = .ok ⟨⟩ := by
  induction xs with
  | nil => simp [pure, Except.pure]
  | cons x xs ih =>
    rw [List.forall_mem_cons, ← ih]
    change (f x >>= fun _ => xs.forM f) = _ ↔ _
    cases h : f x with
    | error e => simp [bind, Except.bind]
    | ok u => simp [bind, Except.bind]

/-- A list of conversions fails as the first of them that fails. -/
theorem mapM_eq_error_iff {f : α → Except ε β} {xs : List α} {e : ε} :
    xs.mapM f = .error e ↔ ∃ before x after, xs = before ++ x :: after ∧
      (∀ y ∈ before, ∃ z, f y = .ok z) ∧ f x = .error e := by
  constructor
  · intro h
    induction xs with
    | nil => cases h
    | cons x xs ih =>
      rw [List.mapM_cons] at h
      cases hx : f x with
      | error e' =>
        rw [hx] at h
        cases h
        exact ⟨[], x, xs, rfl, List.forall_mem_nil _, hx⟩
      | ok y =>
        rw [hx] at h
        cases hxs : xs.mapM f with
        | ok ys =>
          rw [hxs] at h
          cases h
        | error e' =>
          rw [hxs] at h
          cases h
          obtain ⟨before, z, after, rfl, hbefore, hz⟩ := ih hxs
          exact ⟨x :: before, z, after, rfl, List.forall_mem_cons.mpr ⟨⟨y, hx⟩, hbefore⟩, hz⟩
  · rintro ⟨before, x, after, rfl, hbefore, hx⟩
    induction before with
    | nil =>
      rw [List.nil_append, List.mapM_cons, hx]
      rfl
    | cons y before ih =>
      obtain ⟨⟨z, hz⟩, hrest⟩ := List.forall_mem_cons.mp hbefore
      rw [List.cons_append, List.mapM_cons, hz, ih hrest]
      rfl

theorem exists_ok_iff {x : Except ε α} : (∃ a, x = .ok a) ↔ ∀ e, x ≠ .error e := by
  cases x with
  | error e => exact ⟨fun ⟨_, ha⟩ => (nomatch ha), fun h => absurd rfl (h e)⟩
  | ok a => exact ⟨fun _ => nofun, fun _ => ⟨a, rfl⟩⟩

theorem mapM_eq_error_congr {γ : Type} {f : α → Except ε β} {g : α → Except ε γ} {e : ε}
    (h : ∀ x e, f x = .error e ↔ g x = .error e) (xs : List α) :
    xs.mapM f = .error e ↔ xs.mapM g = .error e := by
  simp only [mapM_eq_error_iff, exists_ok_iff, ne_eq, h]

theorem exists_of_mapM_eq_error {f : α → Except ε β} {xs : List α} {e : ε}
    (h : xs.mapM f = .error e) : ∃ x ∈ xs, f x = .error e := by
  obtain ⟨before, x, after, rfl, -, hx⟩ := mapM_eq_error_iff.mp h
  exact ⟨x, List.mem_append_right before List.mem_cons_self, hx⟩

theorem exists_mapM_eq_ok {f : α → Except ε β} {xs : List α} (h : ∀ x ∈ xs, ∃ y, f x = .ok y) :
    ∃ ys, xs.mapM f = .ok ys := by
  cases hxs : xs.mapM f with
  | ok ys => exact ⟨ys, rfl⟩
  | error e =>
    obtain ⟨x, hx, hfail⟩ := exists_of_mapM_eq_error hxs
    obtain ⟨y, hy⟩ := h x hx
    cases hfail.symm.trans hy

@[simp]
theorem mapError_ok {ε' : Type} (f : ε → ε') (a : α) :
    (.ok a : Except ε α).mapError f = .ok a := rfl

@[simp]
theorem mapError_error {ε' : Type} (f : ε → ε') (e : ε) :
    (.error e : Except ε α).mapError f = .error (f e) := rfl

theorem eq_ok_of_mapError {ε' : Type} {x : Except ε α} {f : ε → ε'} {a : α}
    (h : x.mapError f = .ok a) : x = .ok a := by
  cases x with
  | error e => cases h
  | ok b =>
    cases h
    rfl

theorem exists_of_mapError_eq_error {ε' : Type} {x : Except ε α} {f : ε → ε'} {e' : ε'}
    (h : x.mapError f = .error e') : ∃ e, x = .error e ∧ f e = e' := by
  cases x with
  | error e => exact ⟨e, rfl, Except.error.inj h⟩
  | ok a => cases h

theorem exists_of_bind_eq_ok {x : Except ε α} {f : α → Except ε β} {b : β}
    (h : (x >>= f) = .ok b) : ∃ a, x = .ok a ∧ f a = .ok b := by
  cases x with
  | error e => cases h
  | ok a => exact ⟨a, rfl, h⟩

theorem exists_of_map_eq_ok {x : Except ε α} {f : α → β} {b : β} (h : x.map f = .ok b) :
    ∃ a, x = .ok a ∧ b = f a := by
  cases x with
  | error e => cases h
  | ok a =>
    cases h
    exact ⟨a, rfl, rfl⟩

theorem mapM_eq_ok_iff {f : α → Except ε β} {xs : List α} {ys : List β} :
    xs.mapM f = .ok ys ↔ xs.map f = ys.map .ok := by
  induction xs generalizing ys with
  | nil => simp [pure, Except.pure, eq_comm]
  | cons x xs ih =>
    rw [List.mapM_cons, List.map_cons]
    constructor
    · intro h
      obtain ⟨y, hy, hrest⟩ := exists_of_bind_eq_ok h
      obtain ⟨zs, hzs, hpure⟩ := exists_of_bind_eq_ok hrest
      cases hpure
      rw [hy, ih.mp hzs, List.map_cons]
    · intro h
      obtain ⟨y, zs, rfl, hy, hzs⟩ := List.map_eq_cons_iff.mp h.symm
      rw [← hy, ih.mpr hzs.symm]
      rfl

theorem mapM_eq_ok_map {f : α → Except ε β} {g : α → β} {xs : List α}
    (h : ∀ x ∈ xs, f x = .ok (g x)) : xs.mapM f = .ok (xs.map g) := by
  rw [mapM_eq_ok_iff, List.map_congr_left h, List.map_map]
  rfl

theorem exists_of_mapM_eq_ok {f : α → Except ε β} {xs : List α} {ys : List β}
    (h : xs.mapM f = .ok ys) : ∀ x ∈ xs, ∃ y, f x = .ok y := by
  intro x hx
  have hmem : f x ∈ ys.map .ok := mapM_eq_ok_iff.mp h ▸ List.mem_map_of_mem hx
  obtain ⟨y, -, hy⟩ := List.mem_map.mp hmem
  exact ⟨y, hy.symm⟩

theorem exists_map_of_mapM_eq_ok (hne : Nonempty β) {f : α → Except ε β} {xs : List α}
    {ys : List β} (h : xs.mapM f = .ok ys) :
    ∃ g : α → β, (∀ x ∈ xs, f x = .ok (g x)) ∧ ys = xs.map g := by
  obtain ⟨other⟩ := hne
  have hg : ∀ x ∈ xs, f x = .ok ((f x).toOption.getD other) := by
    intro x hx
    obtain ⟨y, hy⟩ := exists_of_mapM_eq_ok h x hx
    rw [hy]
    rfl
  exact ⟨_, hg, Except.ok.inj (h.symm.trans (mapM_eq_ok_map hg))⟩

theorem exists_of_mem_mapM {f : α → Except ε β} {xs : List α} {ys : List β}
    (h : xs.mapM f = .ok ys) : ∀ y ∈ ys, ∃ x ∈ xs, f x = .ok y := by
  intro y hy
  have hmem : .ok y ∈ xs.map f := mapM_eq_ok_iff.mp h ▸ List.mem_map_of_mem hy
  exact List.mem_map.mp hmem

theorem exists_of_getElem?_mapM {f : α → Except ε β} {xs : List α} {ys : List β}
    (h : xs.mapM f = .ok ys) {i : Nat} {y : β} (hy : ys[i]? = some y) :
    ∃ x, xs[i]? = some x ∧ f x = .ok y := by
  have hi := congrArg (·[i]?) (mapM_eq_ok_iff.mp h)
  simp only [List.getElem?_map, hy, Option.map_some] at hi
  exact Option.map_eq_some_iff.mp hi

theorem mapM_concat (f : α → Except ε β) (xs : List α) (x : α) :
    (xs ++ [x]).mapM f = (xs.mapM f).bind fun ys => (f x).map (ys ++ [·]) := by
  rw [List.mapM_append, List.mapM_cons, List.mapM_nil]
  cases xs.mapM f with
  | error e => rfl
  | ok ys => cases f x <;> rfl

theorem length_of_mapM_eq_ok {f : α → Except ε β} {xs : List α} {ys : List β}
    (h : xs.mapM f = .ok ys) : ys.length = xs.length := by
  have hlength := congrArg List.length (mapM_eq_ok_iff.mp h)
  rw [List.length_map, List.length_map] at hlength
  exact hlength.symm

theorem bind_eq_ok_iff {x : Except ε PUnit} {next : PUnit → Except ε β} {b : β} :
    (x >>= next) = .ok b ↔ x = .ok ⟨⟩ ∧ next ⟨⟩ = .ok b := by
  cases x with
  | error e => simp [bind, Except.bind]
  | ok u => simp [bind, Except.bind]

theorem eq_ok_of_toOption {x : Except ε α} {a : α} (h : x.toOption = some a) : x = .ok a := by
  cases x with
  | error e => cases h
  | ok b => exact congrArg Except.ok (Option.some.inj h)

section Decides

variable {P P' : Prop} {Q : ε → Prop}

/-- A computation that succeeds just where `P` holds, and fails only in ways that satisfy `Q`. -/
def Decides (P : Prop) (Q : ε → Prop) : Except ε α → Prop
  | .ok _ => P
  | .error e => ¬ P ∧ Q e

theorem Decides.exists_iff {x : Except ε α} (h : Decides P Q x) : (∃ a, x = .ok a) ↔ P := by
  cases x with
  | ok a => exact ⟨fun _ => h, fun _ => ⟨a, rfl⟩⟩
  | error e => exact ⟨fun ⟨_, ha⟩ => (nomatch ha), fun hp => absurd hp h.1⟩

theorem Decides.exists_error {x : Except ε α} (h : Decides P Q x) (hp : ¬ P) :
    ∃ e, x = .error e ∧ Q e := by
  cases x with
  | ok a => exact absurd h hp
  | error e => exact ⟨e, rfl, h.2⟩

theorem Decides.exists_error_iff {x : Except ε α} (h : Decides P Q x) :
    (∃ e, x = .error e) ↔ ¬ P := by
  cases x with
  | ok a => exact ⟨fun ⟨_, he⟩ => (nomatch he), fun hp => absurd h hp⟩
  | error e => exact ⟨fun _ => h.1, fun _ => ⟨e, rfl⟩⟩

theorem Decides.congr {x : Except ε α} (h : Decides P Q x) (hiff : P ↔ P') : Decides P' Q x := by
  rwa [← hiff]

theorem Decides.map {x : Except ε α} {f : α → β} (h : Decides P Q x) : Decides P Q (x.map f) := by
  cases x <;> exact h

theorem Decides.bind {x : Except ε α} {f : α → Except ε β} (h : Decides P Q x)
    (hnext : ∀ a, Decides P' Q (f a)) : Decides (P ∧ P') Q (x >>= f) := by
  cases x with
  | error e => exact ⟨fun hp => h.1 hp.1, h.2⟩
  | ok a => exact (hnext a).congr ⟨fun hp => ⟨h, hp⟩, And.right⟩

theorem Decides.mapM {f : α → Except ε β} {p : α → Prop} {xs : List α}
    (h : ∀ x ∈ xs, Decides (p x) Q (f x)) : Decides (∀ x ∈ xs, p x) Q (xs.mapM f) := by
  induction xs with
  | nil => exact List.forall_mem_nil _
  | cons x xs ih =>
    obtain ⟨hx, hxs⟩ := List.forall_mem_cons.mp h
    rw [List.mapM_cons, List.forall_mem_cons]
    exact hx.bind fun y => (ih hxs).map

end Decides

theorem bind_of_ok {action : ExceptT ε (StateM σ) α} {next : α → ExceptT ε (StateM σ) β}
    {s t : σ} {x : α} (h : action s = (.ok x, t)) : (action >>= next) s = next x t := by
  change StateT.bind action (ExceptT.bindCont next) s = _
  rw [StateT.bind, h]
  rfl

theorem bind_of_error {action : ExceptT ε (StateM σ) α} {next : α → ExceptT ε (StateM σ) β}
    {s t : σ} {e : ε} (h : action s = (.error e, t)) : (action >>= next) s = (.error e, t) := by
  change StateT.bind action (ExceptT.bindCont next) s = _
  rw [StateT.bind, h]
  rfl

/-- How an action followed by another ends: the first fails, or the second is run where the first
has ended. -/
theorem bind_elim {action : ExceptT ε (StateM σ) α} {next : α → ExceptT ε (StateM σ) β} {s : σ}
    {P : Except ε β × σ → Prop} (herror : ∀ e t, action s = (.error e, t) → P (.error e, t))
    (hok : ∀ x t, action s = (.ok x, t) → P (next x t)) : P ((action >>= next) s) := by
  cases h : action s with
  | mk result t =>
    cases result with
    | error e =>
      rw [bind_of_error h]
      exact herror e t h
    | ok x =>
      rw [bind_of_ok h]
      exact hok x t h

theorem exists_of_bind_ok {action : ExceptT ε (StateM σ) α} {next : α → ExceptT ε (StateM σ) β}
    {s t : σ} {y : β} (h : (action >>= next) s = (.ok y, t)) :
    ∃ x r, action s = (.ok x, r) ∧ next x r = (.ok y, t) := by
  revert h
  refine bind_elim (P := fun run => run = (.ok y, t) → _) (fun e r _ h => ?_) fun x r hrun h => ?_
  · cases h
  · exact ⟨x, r, hrun, h⟩

theorem liftExcept_apply (x : Except ε α) (s : σ) :
    (liftExcept x : ExceptT ε (StateM σ) α) s = (x, s) := by
  cases x <;> rfl

theorem exists_of_liftExcept_ok {result : Except ε α} {next : α → ExceptT ε (StateM σ) β} {s t : σ}
    {y : β} (h : (liftExcept result >>= next : ExceptT ε (StateM σ) β) s = (.ok y, t)) :
    ∃ x, result = .ok x ∧ next x s = (.ok y, t) := by
  obtain ⟨x, r, hlift, hnext⟩ := exists_of_bind_ok h
  obtain ⟨hresult, rfl⟩ := Prod.mk.inj ((liftExcept_apply result s).symm.trans hlift)
  exact ⟨x, hresult, hnext⟩

/-- What holds of each of a list of actions, of what it does to the state and of what it gives,
holds of all of them when they are run one after the other. -/
theorem of_mapM_ok {γ : Type} {f : γ → ExceptT ε (StateM σ) α} {R : σ → σ → Prop}
    {P : α → Prop} (hrefl : ∀ s, R s s)
    (htrans : ∀ s t u, R s t → R t u → R s u) {xs : List γ}
    (hf : ∀ x ∈ xs, ∀ s y t, f x s = (.ok y, t) → R s t ∧ P y) {s t : σ} {ys : List α}
    (h : xs.mapM f s = (.ok ys, t)) :
    R s t ∧ ys.length = xs.length ∧ ∀ y ∈ ys, P y := by
  induction xs generalizing s ys with
  | nil =>
    cases h
    exact ⟨hrefl _, rfl, List.forall_mem_nil _⟩
  | cons x xs ih =>
    rw [List.mapM_cons] at h
    obtain ⟨y, r, hx, hrest⟩ := exists_of_bind_ok h
    obtain ⟨zs, u, hxs, hpure⟩ := exists_of_bind_ok hrest
    cases hpure
    obtain ⟨hfirst, hrest⟩ := List.forall_mem_cons.mp hf
    obtain ⟨hmove, hgood⟩ := hfirst s y r hx
    obtain ⟨hmoves, hlength, hall⟩ := ih hrest hxs
    exact ⟨htrans _ _ _ hmove hmoves, congrArg Nat.succ hlength,
      List.forall_mem_cons.mpr ⟨hgood, hall⟩⟩

def FailsAt (action : ExceptT ε (StateM σ) α) (s : σ) : Prop := ∃ e, (action s).1 = .error e

theorem FailsAt.bind {action : ExceptT ε (StateM σ) α} {next : α → ExceptT ε (StateM σ) β} {s : σ}
    (h : ∀ x t, action s = (.ok x, t) → FailsAt (next x) t) : FailsAt (action >>= next) s :=
  bind_elim (P := fun run => ∃ e, run.1 = .error e) (fun e _ _ => ⟨e, rfl⟩) h

theorem FailsAt.bind_left {action : ExceptT ε (StateM σ) α} {next : α → ExceptT ε (StateM σ) β}
    {s : σ} (h : FailsAt action s) : FailsAt (action >>= next) s := by
  refine .bind fun x t hrun => ?_
  obtain ⟨e, he⟩ := h
  rw [hrun] at he
  cases he

theorem FailsAt.mapM {γ : Type} {f : γ → ExceptT ε (StateM σ) α} {xs : List γ} {x : γ}
    (hx : x ∈ xs) (h : ∀ s, FailsAt (f x) s) (s : σ) : FailsAt (xs.mapM f) s := by
  induction xs generalizing s with
  | nil => cases hx
  | cons y ys ih =>
    rw [List.mapM_cons]
    cases hx with
    | head => exact (h s).bind_left
    | tail _ hx => exact .bind fun _ t _ => (ih hx t).bind_left

theorem exists_mapM_ok {γ : Type} {f : γ → ExceptT ε (StateM σ) α} {xs : List γ}
    (h : ∀ x ∈ xs, ∀ s, ∃ y t, f x s = (.ok y, t)) (s : σ) :
    ∃ ys t, xs.mapM f s = (.ok ys, t) := by
  induction xs generalizing s with
  | nil => exact ⟨[], s, rfl⟩
  | cons x xs ih =>
    obtain ⟨hx, hrest⟩ := List.forall_mem_cons.mp h
    obtain ⟨y, r, hfirst⟩ := hx s
    obtain ⟨ys, t, hothers⟩ := ih hrest r
    refine ⟨y :: ys, t, ?_⟩
    rw [List.mapM_cons, bind_of_ok hfirst, bind_of_ok hothers]
    rfl

variable {τ : Type} {view : σ → τ} {action : ExceptT ε (StateM σ) α}
  {next : α → ExceptT ε (StateM σ) β}

def Keeps (view : σ → τ) (action : ExceptT ε (StateM σ) α) : Prop :=
  ∀ s, view (action s).2 = view s

/-- An action that leaves a part of the state as it is whenever it fails. -/
def Atomic (view : σ → τ) (action : ExceptT ε (StateM σ) α) : Prop :=
  ∀ s e, (action s).1 = .error e → view (action s).2 = view s

def Succeeds (action : ExceptT ε (StateM σ) α) : Prop := ∀ s e, (action s).1 ≠ .error e

theorem Keeps.atomic (h : Keeps view action) : Atomic view action :=
  fun s _ _ => h s

theorem Succeeds.atomic (h : Succeeds action) : Atomic view action :=
  fun s e he => absurd he (h s e)

theorem Keeps.bind (ha : Keeps view action) (hn : ∀ x, Keeps view (next x)) :
    Keeps view (action >>= next) := by
  intro s
  have hs := ha s
  refine bind_elim (P := fun run => view run.2 = view s) (fun e t hrun => ?_) fun x t hrun => ?_
  · rwa [hrun] at hs
  · rw [hrun] at hs
    exact (hn x t).trans hs

theorem Succeeds.bind (ha : Succeeds action) (hn : ∀ x, Succeeds (next x)) :
    Succeeds (action >>= next) := by
  intro s
  refine bind_elim (P := fun run => ∀ e, run.1 ≠ .error e) (fun e t hrun => ?_) fun x t _ => hn x t
  exact absurd (congrArg Prod.fst hrun) (ha s e)

/-- What changes something may only be followed by what cannot fail. -/
theorem Atomic.bind (ha : Atomic view action)
    (hn : ∀ s x t, action s = (.ok x, t) →
      view t = view s ∧ Atomic view (next x) ∨ Succeeds (next x)) :
    Atomic view (action >>= next) := by
  intro s
  have hs := ha s
  refine bind_elim (P := fun run => ∀ e, run.1 = .error e → view run.2 = view s)
    (fun e t hrun e' _ => ?_) fun x t hrun e he => ?_
  · rw [hrun] at hs
    exact hs e rfl
  · rcases hn s x t hrun with ⟨hkept, hnext⟩ | hnext
    · exact (hnext t e he).trans hkept
    · exact absurd he (hnext t e)

theorem Keeps.atomic_bind (ha : Keeps view action) (hn : ∀ x, Atomic view (next x)) :
    Atomic view (action >>= next) := by
  refine ha.atomic.bind fun s x t h => .inl ⟨?_, hn x⟩
  have hs := ha s
  rwa [h] at hs

theorem keeps_pure (view : σ → τ) (x : α) : Keeps view (pure x : ExceptT ε (StateM σ) α) :=
  fun _ => rfl

theorem keeps_throw (view : σ → τ) (e : ε) : Keeps view (throw e : ExceptT ε (StateM σ) α) :=
  fun _ => rfl

theorem succeeds_pure (x : α) : Succeeds (pure x : ExceptT ε (StateM σ) α) := by
  intro s e h
  cases h

theorem keeps_liftExcept (view : σ → τ) (x : Except ε α) :
    Keeps view (liftExcept x : ExceptT ε (StateM σ) α) := by
  intro s
  rw [liftExcept_apply]

theorem keeps_mapM {γ : Type} {f : γ → ExceptT ε (StateM σ) α} {xs : List γ}
    (h : ∀ x, Keeps view (f x)) : Keeps view (xs.mapM f) := by
  induction xs with
  | nil => exact keeps_pure view []
  | cons x xs ih =>
    rw [List.mapM_cons]
    exact (h x).bind fun y => ih.bind fun ys => keeps_pure view (y :: ys)

end DocQuery.Outcome
