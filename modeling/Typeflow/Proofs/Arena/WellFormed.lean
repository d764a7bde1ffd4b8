import Mathlib.Data.Fintype.Card
import Mathlib.Logic.Relation
import Typeflow.Proofs.Arena.Entry

/-!
Well-formed arenas and what they mean. The entries of an arena are equations between variables and
types. If no variable reaches itself through them they have a most general solution, which gives
every unbound variable to itself; every other solution is an instance of it. Two arenas with the
same most general solution are the same to everyone who asks about types.
-/

namespace Typeflow

/-- All variables of the type are variables of the arena. -/
def Ty.Over (ty : Ty) (arena : Arena) : Prop := ∀ v ∈ ty.vars, arena.Owns v

instance (ty : Ty) (arena : Arena) : Decidable (ty.Over arena) :=
  inferInstanceAs (Decidable (∀ v ∈ ty.vars, arena.Owns v))

namespace Arena

def Links (arena : Arena) (v w : TypeVar) : Prop := ∃ ty, arena.entry v = some ty ∧ w ∈ ty.vars

/-- Entries have variables of the arena and no empty places, and no variable reaches itself by
following entries. -/
structure WellFormed (arena : Arena) : Prop where
  owned : ∀ v ty, arena.entry v = some ty → ty.Over arena
  nilFree : ∀ v ty, arena.entry v = some ty → ty.nilFree = true
  acyclic : ∀ v, ¬ Relation.TransGen arena.Links v v

/-- The assignment of types to variables makes the entries true. -/
def Satisfies (arena : Arena) (s : TypeVar → Ty) : Prop :=
  ∀ v ty, arena.entry v = some ty → s v = ty.subst s

def solvedWithin (arena : Arena) : Nat → TypeVar → Ty
  | 0, v => .var v
  | steps + 1, v =>
    match arena.entry v with
    | some ty => ty.subst (arena.solvedWithin steps)
    | none => .var v

/-- The most general solution: entries are followed until only unbound variables are left. -/
def solved (arena : Arena) : TypeVar → Ty := arena.solvedWithin arena.size

theorem solved_unbound {arena : Arena} {v : TypeVar} (h : arena.entry v = none) :
    arena.solved v = .var v := by
  unfold solved
  cases arena.size with
  | zero => rfl
  | succ steps => simp only [solvedWithin, h]

namespace WellFormed

variable {arena : Arena}

/-- Variables can be numbered so that entries lead to smaller numbers only. -/
theorem exists_rank (h : arena.WellFormed) :
    ∃ rank : TypeVar → Nat, (∀ v w, arena.Links v w → rank w < rank v) ∧
      ∀ v, arena.Owns v → rank v < arena.size := by
  classical
  -- The number of a variable is how many variables it reaches.
  let reached (v : TypeVar) : Finset (Fin arena.size) :=
    Finset.univ.filter fun i => Relation.TransGen arena.Links v ⟨(i.val : Int)⟩
  have hself : ∀ {n : Nat} (hn : n < arena.size), ⟨n, hn⟩ ∉ reached ⟨(n : Int)⟩ := by
    intro n hn hmem
    exact h.acyclic _ (Finset.mem_filter.mp hmem).2
  refine ⟨fun v => (reached v).card, ?_, ?_⟩
  · rintro v w ⟨ty, hty, hw⟩
    obtain ⟨n, hn, rfl⟩ := owns_iff_exists.mp (h.owned v ty hty w hw)
    have hlink : arena.Links v ⟨(n : Int)⟩ := ⟨ty, hty, hw⟩
    refine Finset.card_lt_card (Finset.ssubset_iff_of_subset ?_ |>.mpr ⟨⟨n, hn⟩, ?_, hself hn⟩)
    · intro i hi
      exact Finset.mem_filter.mpr ⟨Finset.mem_univ _,
        Relation.TransGen.head hlink (Finset.mem_filter.mp hi).2⟩
    · exact Finset.mem_filter.mpr ⟨Finset.mem_univ _, Relation.TransGen.single hlink⟩
  · intro v hv
    obtain ⟨n, hn, rfl⟩ := owns_iff_exists.mp hv
    calc (reached ⟨(n : Int)⟩).card < Fintype.card (Fin arena.size) :=
          Finset.card_lt_univ_of_notMem (hself hn)
      _ = arena.size := Fintype.card_fin _

theorem induction (h : arena.WellFormed) {motive : TypeVar → Prop}
    (step : ∀ v, (∀ w, arena.Links v w → motive w) → motive v) (v : TypeVar) : motive v := by
  obtain ⟨rank, hrank, _⟩ := h.exists_rank
  have hall : ∀ bound v, rank v < bound → motive v := by
    intro bound
    induction bound with
    | zero => intro v hv; omega
    | succ bound ih =>
      intro v hv
      refine step v fun w hw => ih w ?_
      have hlt := hrank v w hw
      omega
  exact hall (rank v + 1) v (Nat.lt_succ_self _)

theorem solved_of_entry (h : arena.WellFormed) {v : TypeVar} {ty : Ty}
    (hentry : arena.entry v = some ty) : arena.solved v = ty.subst arena.solved := by
  obtain ⟨rank, hrank, hbound⟩ := h.exists_rank
  -- More steps than the rank of a variable do not change what is found for it.
  have hstable : ∀ steps v, rank v < steps → ∀ steps', rank v < steps' →
      arena.solvedWithin steps v = arena.solvedWithin steps' v := by
    intro steps
    induction steps with
    | zero => intro v hv; omega
    | succ steps ih =>
      intro v hv steps' hv'
      obtain ⟨steps', rfl⟩ : ∃ n, steps' = n + 1 := ⟨steps' - 1, by omega⟩
      cases hentry : arena.entry v with
      | none => simp only [solvedWithin, hentry]
      | some ty =>
        simp only [solvedWithin, hentry]
        refine Ty.subst_congr fun w hw => ih w ?_ steps' ?_
        · have hlt := hrank v w ⟨ty, hentry, hw⟩
          omega
        · have hlt := hrank v w ⟨ty, hentry, hw⟩
          omega
  have hv := hbound v (owns_of_entry hentry)
  obtain ⟨steps, hsteps⟩ : ∃ n, arena.size = n + 1 := ⟨arena.size - 1, by omega⟩
  have hunfold : arena.solved v = ty.subst (arena.solvedWithin steps) := by
    unfold solved
    rw [hsteps]
    simp only [solvedWithin, hentry]
  rw [hunfold]
  refine Ty.subst_congr fun w hw => ?_
  have hlt := hrank v w ⟨ty, hentry, hw⟩
  exact hstable steps w (by omega) arena.size (by omega)

theorem satisfies_solved (h : arena.WellFormed) : arena.Satisfies arena.solved :=
  fun _ _ hentry => h.solved_of_entry hentry

theorem subst_solved_var (h : arena.WellFormed) {s : TypeVar → Ty} (hs : arena.Satisfies s)
    (v : TypeVar) : (arena.solved v).subst s = s v := by
  induction v using h.induction with
  | step v ih =>
    cases hentry : arena.entry v with
    | none => rw [solved_unbound hentry, Ty.subst_var]
    | some ty =>
      rw [h.solved_of_entry hentry, Ty.subst_subst, hs v ty hentry]
      exact Ty.subst_congr fun w hw => ih w ⟨ty, hentry, hw⟩

theorem subst_solved (h : arena.WellFormed) {s : TypeVar → Ty} (hs : arena.Satisfies s)
    (ty : Ty) : (ty.subst arena.solved).subst s = ty.subst s := by
  rw [Ty.subst_subst]
  exact Ty.subst_congr fun v _ => h.subst_solved_var hs v

theorem satisfies_iff (h : arena.WellFormed) {s : TypeVar → Ty} :
    arena.Satisfies s ↔ ∀ v, (arena.solved v).subst s = s v := by
  constructor
  · exact fun hs v => h.subst_solved_var hs v
  · intro hs v ty hentry
    rw [← hs v, h.solved_of_entry hentry, Ty.subst_subst]
    exact Ty.subst_congr fun w _ => hs w

/-- Only unbound variables are left in the most general solution. -/
theorem entry_of_mem_solved (h : arena.WellFormed) {v w : TypeVar}
    (hw : w ∈ (arena.solved v).vars) : arena.entry w = none := by
  induction v using h.induction with
  | step v ih =>
    cases hentry : arena.entry v with
    | none =>
      rw [solved_unbound hentry, Ty.mem_vars_var] at hw
      rw [hw, hentry]
    | some ty =>
      rw [h.solved_of_entry hentry] at hw
      obtain ⟨x, hx, hw⟩ := Ty.mem_vars_subst.mp hw
      exact ih x ⟨ty, hentry, hx⟩ hw

theorem owns_of_mem_solved (h : arena.WellFormed) {v w : TypeVar} (hv : arena.Owns v)
    (hw : w ∈ (arena.solved v).vars) : arena.Owns w := by
  induction v using h.induction with
  | step v ih =>
    cases hentry : arena.entry v with
    | none =>
      rw [solved_unbound hentry, Ty.mem_vars_var] at hw
      rw [hw]
      exact hv
    | some ty =>
      rw [h.solved_of_entry hentry] at hw
      obtain ⟨x, hx, hw⟩ := Ty.mem_vars_subst.mp hw
      exact ih x ⟨ty, hentry, hx⟩ (h.owned v ty hentry x hx) hw

theorem over_subst_solved (h : arena.WellFormed) {ty : Ty} (hty : ty.Over arena) :
    (ty.subst arena.solved).Over arena := by
  intro w hw
  obtain ⟨v, hv, hw⟩ := Ty.mem_vars_subst.mp hw
  exact h.owns_of_mem_solved (hty v hv) hw

theorem entry_eq_none_iff (h : arena.WellFormed) {v : TypeVar} :
    arena.entry v = none ↔ arena.solved v = .var v := by
  constructor
  · exact solved_unbound
  · intro hsolved
    have hmem : v ∈ (arena.solved v).vars := by rw [hsolved]; simp
    exact h.entry_of_mem_solved hmem

/-- The solution puts at most one entry into another for every variable of the arena, and each
adds no more than the height of the tallest. -/
theorem height_subst_solved_le_of_entries (h : arena.WellFormed) {tallest : Nat} {ty : Ty}
    (hentries : ∀ v ty, arena.entry v = some ty → ty.height ≤ tallest) (hty : ty.height ≤ tallest)
    (hover : ty.Over arena) :
    (ty.subst arena.solved).height ≤ (arena.size + 1) * (tallest + 1) := by
  obtain ⟨rank, hrank, hbound⟩ := h.exists_rank
  have hsolved : ∀ v, (arena.solved v).height ≤ (rank v + 1) * (tallest + 1) := by
    intro v
    induction v using h.induction with
    | step v ih =>
      cases hentry : arena.entry v with
      | none =>
        rw [solved_unbound hentry]
        exact Nat.le_trans (by simp [Ty.height]) (Nat.le_mul_of_pos_left _ (Nat.succ_pos _))
      | some ty =>
        have hty := hentries v ty hentry
        have hvars : ∀ w ∈ ty.vars, (arena.solved w).height ≤ rank v * (tallest + 1) := by
          intro w hw
          have hlt := hrank v w ⟨ty, hentry, hw⟩
          exact Nat.le_trans (ih w ⟨ty, hentry, hw⟩) (Nat.mul_le_mul_right _ (by omega))
        have hheight := Ty.height_subst_le hvars
        rw [h.solved_of_entry hentry, Nat.add_mul]
        omega
  have hvars : ∀ v ∈ ty.vars, (arena.solved v).height ≤ arena.size * (tallest + 1) := by
    intro v hv
    have hlt := hbound v (hover v hv)
    exact Nat.le_trans (hsolved v) (Nat.mul_le_mul_right _ (by omega))
  have hheight := Ty.height_subst_le hvars
  rw [Nat.add_mul]
  omega

/-- A solved type is no taller than the bound for the depth of questions. -/
theorem height_subst_solved_le (h : arena.WellFormed) {types : List Ty} {ty : Ty}
    (hmem : ty ∈ types) (hover : ty.Over arena) :
    (ty.subst arena.solved).height ≤ arena.depthBound types := by
  obtain ⟨tallest, hdepth, htypes, hentries⟩ := exists_tallest arena types
  rw [hdepth]
  exact h.height_subst_solved_le_of_entries hentries (htypes ty hmem) hover

end WellFormed

theorem wellFormed_empty : empty.WellFormed := by
  have hunbound : ∀ v ty, empty.entry v ≠ some ty := by
    intro v ty hty
    rw [entry_empty] at hty
    cases hty
  refine ⟨fun v ty hty => (hunbound v ty hty).elim, fun v ty hty => (hunbound v ty hty).elim, ?_⟩
  intro v hcycle
  obtain ⟨_, ⟨ty, hty, _⟩, _⟩ := Relation.TransGen.head'_iff.mp hcycle
  exact hunbound v ty hty

theorem WellFormed.grow {arena : Arena} (h : arena.WellFormed) (count : Nat) :
    (arena.grow count).WellFormed := by
  have hlinks : (arena.grow count).Links = arena.Links := by
    funext v w
    unfold Links
    rw [entry_grow]
  refine ⟨?_, ?_, ?_⟩
  · intro v ty hty w hw
    rw [entry_grow] at hty
    obtain ⟨hlow, hhigh⟩ := h.owned v ty hty w hw
    refine ⟨hlow, ?_⟩
    rw [size_grow]
    omega
  · intro v ty hty
    rw [entry_grow] at hty
    exact h.nilFree v ty hty
  · rw [hlinks]
    exact h.acyclic

section Assign

variable {arena : Arena} {v w : TypeVar} {ty : Ty}

theorem links_of_assign (howns : arena.Owns v) (hnil : ty.nilFree = true) {x y : TypeVar}
    (h : (arena.assign v ty).Links x y) : arena.Links x y ∨ x = v ∧ y ∈ ty.vars := by
  obtain ⟨u, hu, hy⟩ := h
  rw [entry_assign howns (Ty.ne_absent_of_nilFree hnil)] at hu
  split at hu
  · rename_i hx
    cases hu
    exact Or.inr ⟨hx, hy⟩
  · exact Or.inl ⟨u, hu, hy⟩

theorem entry_of_assign_eq_none (howns : arena.Owns v) (hnil : ty.nilFree = true)
    (h : (arena.assign v ty).entry w = none) : arena.entry w = none := by
  rw [entry_assign howns (Ty.ne_absent_of_nilFree hnil)] at h
  split at h
  · cases h
  · exact h

/-- A new entry can only spoil an arena by closing a cycle. -/
theorem WellFormed.assign (h : arena.WellFormed) (howns : arena.Owns v) (hover : ty.Over arena)
    (hnil : ty.nilFree = true)
    (hacyclic : ∀ x, ¬ Relation.TransGen (arena.assign v ty).Links x x) :
    (arena.assign v ty).WellFormed := by
  have hnew := entry_assign howns (Ty.ne_absent_of_nilFree hnil)
  refine ⟨?_, ?_, hacyclic⟩
  · intro w u hu x hx
    rw [owns_assign]
    rw [hnew] at hu
    split at hu
    · cases hu
      exact hover x hx
    · exact h.owned w u hu x hx
  · intro w u hu
    rw [hnew] at hu
    split at hu
    · cases hu
      exact hnil
    · exact h.nilFree w u hu

end Assign

/-- The second arena means the same as the first and is well-formed, and every type in its entries
stands in an entry of the first. -/
structure Same (arena arena' : Arena) : Prop where
  wellFormed : arena'.WellFormed
  size_eq : arena'.size = arena.size
  solved_eq : arena'.solved = arena.solved
  entry_mem : ∀ v ty, arena'.entry v = some ty → ∃ w, arena.entry w = some ty

namespace Same

variable {arena arena' arena'' : Arena} {v : TypeVar}

theorem refl (h : arena.WellFormed) : arena.Same arena := ⟨h, rfl, rfl, fun v _ hv => ⟨v, hv⟩⟩

theorem trans (h : arena.Same arena') (h' : arena'.Same arena'') : arena.Same arena'' := by
  refine ⟨h'.wellFormed, h'.size_eq.trans h.size_eq, h'.solved_eq.trans h.solved_eq, ?_⟩
  intro v ty hv
  obtain ⟨w, hw⟩ := h'.entry_mem v ty hv
  exact h.entry_mem w ty hw

theorem owns_iff (h : arena.Same arena') : arena'.Owns v ↔ arena.Owns v := by
  unfold Owns
  rw [h.size_eq]

theorem over_iff (h : arena.Same arena') {ty : Ty} : ty.Over arena' ↔ ty.Over arena :=
  forall₂_congr fun _ _ => h.owns_iff

theorem entry_eq_none_iff (h : arena.Same arena') (hwf : arena.WellFormed) :
    arena'.entry v = none ↔ arena.entry v = none := by
  rw [h.wellFormed.entry_eq_none_iff, hwf.entry_eq_none_iff, h.solved_eq]

theorem satisfies_iff (h : arena.Same arena') (hwf : arena.WellFormed) {s : TypeVar → Ty} :
    arena'.Satisfies s ↔ arena.Satisfies s := by
  rw [h.wellFormed.satisfies_iff, hwf.satisfies_iff, h.solved_eq]

/-- With the same unbound variables it is enough that every solution stays one. -/
theorem of_satisfies (hwf' : arena'.WellFormed) (hsize : arena'.size = arena.size)
    (hunbound : ∀ v, arena'.entry v = none → arena.entry v = none)
    (hentries : ∀ v ty, arena'.entry v = some ty → ∃ w, arena.entry w = some ty)
    (hsatisfies : arena'.Satisfies arena.solved) : arena.Same arena' := by
  refine ⟨hwf', hsize, funext fun v => ?_, hentries⟩
  have hfixed : (arena'.solved v).subst arena.solved = arena'.solved v :=
    Ty.subst_eq_self fun w hw => solved_unbound (hunbound w (hwf'.entry_of_mem_solved hw))
  rw [← hfixed]
  exact hwf'.subst_solved_var hsatisfies v

end Same

end Arena

end Typeflow
