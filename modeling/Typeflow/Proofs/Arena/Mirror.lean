import Mathlib.Data.List.Nodup
import Mathlib.Data.List.Perm.Subperm
import Typeflow.Proofs.Arena.Path

/-!
Arenas whose paths end alike. A path is determined by where it starts, it passes no variable
twice, and compressing it or growing the arena does not move the end of any path. Two arenas
mirror each other if from every variable their paths lead to the same end. This is kept when one
of them compresses a path, when both grow, and when both bind the same variable; and it is enough
for both to allow the same depth.
-/

namespace Typeflow

namespace Arena

/-- The path from a type ends in that type. -/
def LeadsTo (arena : Arena) (ty target : Ty) : Prop := ∃ passed, arena.Follows ty passed target

section Paths

variable {arena : Arena} {ty target : Ty} {passed : List TypeVar}

theorem Follows.unique (h : arena.Follows ty passed target) {passed' : List TypeVar}
    {target' : Ty} (h' : arena.Follows ty passed' target') :
    passed = passed' ∧ target = target' := by
  induction h generalizing passed' with
  | stop hstop =>
    cases h' with
    | stop => exact ⟨rfl, rfl⟩
    | pass hentry _ =>
      rw [(hstop _ rfl).2] at hentry
      cases hentry
  | pass hentry _ ih =>
    cases h' with
    | stop hstop =>
      rw [(hstop _ rfl).2] at hentry
      cases hentry
    | pass hentry' hpath' =>
      rw [hentry] at hentry'
      cases hentry'
      obtain ⟨rfl, rfl⟩ := ih hpath'
      exact ⟨rfl, rfl⟩

theorem LeadsTo.unique (h : arena.LeadsTo ty target) {target' : Ty}
    (h' : arena.LeadsTo ty target') : target = target' := by
  obtain ⟨passed, hpath⟩ := h
  obtain ⟨passed', hpath'⟩ := h'
  exact (hpath.unique hpath').2

/-- From a variable that is passed, the rest of the path is shorter. -/
theorem Follows.rest_of_mem (h : arena.Follows ty passed target) {v : TypeVar} (hv : v ∈ passed) :
    ∃ rest, arena.Follows (.var v) (v :: rest) target ∧ rest.length < passed.length := by
  induction h with
  | stop => cases hv
  | @pass w next target passed hentry hpath ih =>
    by_cases hvw : v = w
    · subst hvw
      exact ⟨passed, .pass hentry hpath, by simp⟩
    · have hmem : v ∈ passed := List.mem_of_ne_of_mem hvw hv
      obtain ⟨rest, hrest, hlength⟩ := ih hmem
      refine ⟨rest, hrest, ?_⟩
      rw [List.length_cons]
      omega

theorem Follows.owns (h : arena.Follows ty passed target) : ∀ v ∈ passed, arena.Owns v := by
  induction h with
  | stop =>
    intro v hv
    cases hv
  | pass hentry _ ih => exact List.forall_mem_cons.mpr ⟨owns_of_entry hentry, ih⟩

theorem Follows.nodup (h : arena.Follows ty passed target) : passed.Nodup := by
  induction h with
  | stop => exact List.nodup_nil
  | pass hentry hpath ih =>
    refine List.nodup_cons.mpr ⟨fun hmem => ?_, ih⟩
    obtain ⟨rest, hrest, hlength⟩ := hpath.rest_of_mem hmem
    have heq := (hrest.unique (.pass hentry hpath)).1
    rw [(List.cons.inj heq).2] at hlength
    omega

theorem Follows.length_le (h : arena.Follows ty passed target) : passed.length ≤ arena.size := by
  have hindex : (passed.map fun v => v.index.toNat).Nodup := by
    refine List.Nodup.map_on ?_ h.nodup
    intro v hv w hw heq
    obtain ⟨n, _, rfl⟩ := owns_iff_exists.mp (h.owns v hv)
    obtain ⟨m, _, rfl⟩ := owns_iff_exists.mp (h.owns w hw)
    simp only [Int.toNat_natCast] at heq
    rw [heq]
  have hrange : (passed.map fun v => v.index.toNat) ⊆ List.range arena.size := by
    intro n hn
    obtain ⟨v, hv, rfl⟩ := List.mem_map.mp hn
    obtain ⟨hnonneg, hlt⟩ := h.owns v hv
    rw [List.mem_range]
    omega
  have hlength := (List.Nodup.subperm hindex hrange).length_le
  rwa [List.length_map, List.length_range] at hlength

theorem follow_of_follows (h : arena.Follows ty passed target) {steps : Nat}
    (hsteps : passed.length ≤ steps) : arena.follow steps ty = .ok (target, passed) := by
  induction h generalizing steps with
  | @stop ty hstop =>
    cases ty with
    | var v =>
      obtain ⟨howns, hentry⟩ := hstop v rfl
      unfold follow
      rw [lookup_of_owns howns, hentry]
    | _ => exact follow_of_ne_var arena steps (by simp)
  | @pass v next target passed hentry hpath ih =>
    obtain ⟨steps, rfl⟩ : ∃ n, steps = n + 1 :=
      ⟨steps - 1, by rw [List.length_cons] at hsteps; omega⟩
    rw [List.length_cons] at hsteps
    unfold follow
    rw [lookup_of_owns (owns_of_entry hentry), hentry]
    simp only [ih (Nat.le_of_succ_le_succ hsteps)]

/-- Pointing a variable at the end of its path leaves the end of every path as it is. -/
theorem LeadsTo.redirect {v : TypeVar} {next x end' : Ty} (hentry : arena.entry v = some next)
    (hpath : arena.Follows next passed target) (htarget : target ≠ .absent)
    (h : arena.LeadsTo x end') : (arena.assign v target).LeadsTo x end' := by
  have howns := owns_of_entry hentry
  -- What is unbound stays unbound, because `v` is bound.
  have hstays : ∀ w, arena.Owns w ∧ arena.entry w = none →
      (arena.assign v target).Owns w ∧ (arena.assign v target).entry w = none := by
    intro w hw
    have hne : w ≠ v := by
      intro heq
      rw [heq, hentry] at hw
      cases hw.2
    rw [owns_assign, entry_assign howns htarget, if_neg hne]
    exact hw
  obtain ⟨passed', hfollows⟩ := h
  induction hfollows with
  | stop hstop => exact ⟨[], .stop fun w hw => hstays w (hstop w hw)⟩
  | @pass w next' end' passed' hentry' hpath' ih =>
    by_cases hwv : w = v
    · subst hwv
      rw [hentry] at hentry'
      cases hentry'
      obtain ⟨_, rfl⟩ := hpath.unique hpath'
      refine ⟨[w], .pass ?_ (.stop fun u hu => hstays u (hpath.unbound hu))⟩
      rw [entry_assign howns htarget, if_pos rfl]
    · obtain ⟨rest, hrest⟩ := ih
      refine ⟨w :: rest, .pass ?_ hrest⟩
      rw [entry_assign howns htarget, if_neg hwv]
      exact hentry'

theorem LeadsTo.compress {x end' : Ty} (h : arena.Follows ty passed target)
    (htarget : target ≠ .absent) (hx : arena.LeadsTo x end') :
    (arena.compress passed target).LeadsTo x end' := by
  induction passed generalizing arena ty with
  | nil => exact hx
  | cons v rest ih =>
    have hnodup := h.nodup
    cases h with
    | pass hentry hpath =>
      cases rest with
      | nil => exact hx
      | cons w rest =>
        -- The rest of the path does not pass `v` again and survives its redirection.
        have hrest := hpath.assign (List.nodup_cons.mp hnodup).1 hentry htarget
        exact ih hrest (hx.redirect hentry hpath htarget)

/-- Binding an unbound variable lengthens the paths that ended there. -/
theorem LeadsTo.assign {v : TypeVar} {x end' : Ty} (hv : arena.Owns v)
    (hunbound : arena.entry v = none) (hty : ty ≠ .absent)
    (hstop : ∀ w, ty = .var w → w ≠ v ∧ arena.Owns w ∧ arena.entry w = none)
    (h : arena.LeadsTo x end') :
    (arena.assign v ty).LeadsTo x (if end' = .var v then ty else end') := by
  have hstays : ∀ w, w ≠ v → arena.Owns w ∧ arena.entry w = none →
      (arena.assign v ty).Owns w ∧ (arena.assign v ty).entry w = none := by
    intro w hne hw
    rw [owns_assign, entry_assign hv hty, if_neg hne]
    exact hw
  obtain ⟨passed, hfollows⟩ := h
  induction hfollows with
  | @stop x hx =>
    by_cases heq : x = .var v
    · subst heq
      rw [if_pos rfl]
      refine ⟨[v], .pass ?_ (.stop fun w hw => ?_)⟩
      · rw [entry_assign hv hty, if_pos rfl]
      · obtain ⟨hne, hw⟩ := hstop w hw
        exact hstays w hne hw
    · rw [if_neg heq]
      refine ⟨[], .stop fun w hw => hstays w ?_ (hx w hw)⟩
      intro hwv
      exact heq (hw.trans (congrArg Ty.var hwv))
  | @pass w next end' passed hentry _ ih =>
    obtain ⟨rest, hrest⟩ := ih
    refine ⟨w :: rest, .pass ?_ hrest⟩
    have hne : w ≠ v := by
      intro heq
      rw [heq, hunbound] at hentry
      cases hentry
    rw [entry_assign hv hty, if_neg hne]
    exact hentry

theorem LeadsTo.grow {x end' : Ty} (count : Nat) (h : arena.LeadsTo x end') :
    (arena.grow count).LeadsTo x end' := by
  obtain ⟨passed, hfollows⟩ := h
  induction hfollows with
  | stop hstop =>
    refine ⟨[], .stop fun w hw => ?_⟩
    obtain ⟨⟨hnonneg, hlt⟩, hentry⟩ := hstop w hw
    refine ⟨⟨hnonneg, ?_⟩, by rw [entry_grow, hentry]⟩
    rw [size_grow]
    omega
  | pass hentry _ ih =>
    obtain ⟨rest, hrest⟩ := ih
    exact ⟨_, .pass (by rw [entry_grow, hentry]) hrest⟩

end Paths

theorem size_compress (arena : Arena) (passed : List TypeVar) (target : Ty) :
    (arena.compress passed target).size = arena.size := by
  unfold compress
  induction passed.dropLast generalizing arena with
  | nil => rfl
  | cons v rest ih => rw [List.foldl_cons, ih, size_assign]

theorem assign_absent {arena : Arena} {v : TypeVar} (hv : arena.Owns v)
    (h : arena.entry v = none) : arena.assign v .absent = arena := by
  obtain ⟨n, hn, rfl⟩ := owns_iff_exists.mp hv
  have hn' : n < arena.entries.size := hn
  rw [entry_natCast, Array.getElem?_eq_getElem hn', Option.getD_some] at h
  refine congrArg Arena.mk (Array.ext_getElem? fun m => ?_)
  by_cases hmn : n = m
  · subst hmn
    simp [hn', h]
  · simp [hmn]

private theorem foldl_max_le_of_le {entries : List (Option Ty)} {start bound : Nat}
    (hstart : start ≤ bound) (hentries : ∀ ty, some ty ∈ entries → ty.height ≤ bound) :
    entries.foldl (fun height entry => max height ((entry.map Ty.height).getD 0)) start ≤
      bound := by
  induction entries generalizing start with
  | nil => exact hstart
  | cons first rest ih =>
    rw [List.foldl_cons]
    refine ih ?_ fun ty hty => hentries ty (List.mem_cons_of_mem _ hty)
    cases first with
    | none => simpa using hstart
    | some ty =>
      have hfirst := hentries ty List.mem_cons_self
      simp only [Option.map_some, Option.getD_some]
      omega

theorem depthBound_le_of_heights {arena : Arena} {types : List Ty} {tallest : Nat}
    (htypes : ∀ ty ∈ types, ty.height ≤ tallest)
    (hentries : ∀ v ty, arena.entry v = some ty → ty.height ≤ tallest) :
    arena.depthBound types ≤ (arena.size + 1) * (tallest + 1) := by
  unfold depthBound
  refine Nat.mul_le_mul_left _ (Nat.succ_le_succ ?_)
  rw [← Array.foldl_toList]
  refine foldl_max_le_of_le (Ty.heightList_le_iff.mpr htypes) fun ty hty => ?_
  obtain ⟨n, hn, hget⟩ := List.getElem_of_mem hty
  refine hentries ⟨n⟩ ty ?_
  rw [Array.length_toList] at hn
  rw [Array.getElem_toList] at hget
  rw [entry_natCast, Array.getElem?_eq_getElem hn, Option.getD_some, hget]

/-- From every variable the paths in both arenas lead to the same end. -/
structure Mirrors (arena arena' : Arena) : Prop where
  size_eq : arena.size = arena'.size
  leads : ∀ v, arena.Owns v →
    ∃ target, target ≠ .absent ∧ arena.LeadsTo (.var v) target ∧ arena'.LeadsTo (.var v) target

namespace Mirrors

variable {arena arena' : Arena}

theorem owns_iff (h : arena.Mirrors arena') (v : TypeVar) : arena.Owns v ↔ arena'.Owns v := by
  unfold Owns
  rw [h.size_eq]

theorem symm (h : arena.Mirrors arena') : arena'.Mirrors arena := by
  refine ⟨h.size_eq.symm, fun v hv => ?_⟩
  obtain ⟨target, htarget, hleads, hleads'⟩ := h.leads v ((h.owns_iff v).mpr hv)
  exact ⟨target, htarget, hleads', hleads⟩

theorem leadsTo (h : arena.Mirrors arena') {v : TypeVar} {target : Ty}
    (hleads : arena.LeadsTo (.var v) target) (hv : arena.Owns v) :
    arena'.LeadsTo (.var v) target := by
  obtain ⟨target', _, hfirst, hsecond⟩ := h.leads v hv
  rw [hleads.unique hfirst]
  exact hsecond

theorem empty : Arena.empty.Mirrors Arena.empty := by
  refine ⟨rfl, fun v hv => ?_⟩
  obtain ⟨hnonneg, hlt⟩ := hv
  simp only [Arena.empty, size, Array.size_empty] at hlt
  omega

theorem grow (h : arena.Mirrors arena') : (arena.grow 1).Mirrors (arena'.grow 1) := by
  refine ⟨by rw [size_grow, size_grow, h.size_eq], fun v hv => ?_⟩
  by_cases hold : arena.Owns v
  · obtain ⟨target, htarget, hleads, hleads'⟩ := h.leads v hold
    exact ⟨target, htarget, hleads.grow 1, hleads'.grow 1⟩
  · have hold' : ¬ arena'.Owns v := fun hv' => hold ((h.owns_iff v).mpr hv')
    have hv' : (arena'.grow 1).Owns v := by
      unfold Owns at hv ⊢
      rw [size_grow] at hv ⊢
      rw [← h.size_eq]
      exact hv
    refine ⟨.var v, by simp, ⟨[], .stop fun w hw => ?_⟩, ⟨[], .stop fun w hw => ?_⟩⟩
    · cases hw
      exact ⟨hv, by rw [entry_grow, entry_of_not_owns hold]⟩
    · cases hw
      exact ⟨hv', by rw [entry_grow, entry_of_not_owns hold']⟩

theorem entry_eq_none (h : arena.Mirrors arena') {v : TypeVar} (hentry : arena'.entry v = none) :
    arena.entry v = none := by
  by_cases hv : arena.Owns v
  · have hself : arena'.LeadsTo (.var v) (.var v) := by
      refine ⟨[], .stop fun w hw => ?_⟩
      cases hw
      exact ⟨(h.owns_iff v).mp hv, hentry⟩
    obtain ⟨_, hpath⟩ := h.symm.leadsTo hself ((h.owns_iff v).mp hv)
    exact (hpath.unbound rfl).2
  · exact entry_of_not_owns hv

theorem compress (h : arena.Mirrors arena') {ty target : Ty} {passed : List TypeVar}
    (hpath : arena.Follows ty passed target) (htarget : target ≠ .absent) :
    (arena.compress passed target).Mirrors arena' := by
  have hsize := size_compress arena passed target
  refine ⟨hsize.trans h.size_eq, fun v hv => ?_⟩
  have hv' : arena.Owns v := by
    unfold Owns at hv ⊢
    rwa [hsize] at hv
  obtain ⟨end', hend, hleads, hleads'⟩ := h.leads v hv'
  exact ⟨end', hend, hleads.compress hpath htarget, hleads'⟩

theorem assign (h : arena.Mirrors arena') {v : TypeVar} {ty : Ty} (hv : arena'.Owns v)
    (hunbound : arena'.entry v = none)
    (hstop : ∀ w, ty = .var w → w ≠ v ∧ arena'.Owns w ∧ arena'.entry w = none) :
    (arena.assign v ty).Mirrors (arena'.assign v ty) := by
  refine ⟨by rw [size_assign, size_assign, h.size_eq], fun u hu => ?_⟩
  rw [owns_assign] at hu
  obtain ⟨target, htarget, hleads, hleads'⟩ := h.leads u hu
  by_cases hty : ty = .absent
  · rw [hty, assign_absent ((h.owns_iff v).mpr hv) (h.entry_eq_none hunbound),
      assign_absent hv hunbound]
    exact ⟨target, htarget, hleads, hleads'⟩
  · refine ⟨if target = .var v then ty else target, ?_,
      hleads.assign ((h.owns_iff v).mpr hv) (h.entry_eq_none hunbound) hty fun w hw => ?_,
      hleads'.assign hv hunbound hty hstop⟩
    · split
      · exact hty
      · exact htarget
    · obtain ⟨hne, howns, hentry⟩ := hstop w hw
      exact ⟨hne, (h.owns_iff w).mpr howns, h.entry_eq_none hentry⟩

/-- Only links between variables differ, and they are no taller than any type. -/
theorem depthBound_le (h : arena.Mirrors arena') {types : List Ty} (htypes : types ≠ []) :
    arena.depthBound types ≤ arena'.depthBound types := by
  obtain ⟨tallest, hbound, hgiven, hentries⟩ := exists_tallest arena' types
  have hfirst : 1 ≤ tallest := by
    obtain ⟨first, hfirst⟩ := List.exists_mem_of_ne_nil types htypes
    exact Nat.le_trans first.height_pos (hgiven first hfirst)
  have hheights : ∀ v ty, arena.entry v = some ty → ty.height ≤ tallest := by
    intro v ty hentry
    by_cases hvar : ∃ w, ty = .var w
    · obtain ⟨w, rfl⟩ := hvar
      exact hfirst
    · have hleads : arena.LeadsTo (.var v) ty :=
        ⟨[v], .pass hentry (.stop fun w hw => (hvar ⟨w, hw⟩).elim)⟩
      obtain ⟨_, hpath⟩ := h.leadsTo hleads (owns_of_entry hentry)
      cases hpath with
      | stop => exact (hvar ⟨v, rfl⟩).elim
      | pass hentry' hpath' =>
        obtain ⟨w, hw⟩ := hpath'.exists_entry hentry'
        exact hentries w ty hw
  rw [hbound, h.size_eq.symm]
  exact depthBound_le_of_heights hgiven hheights

theorem depthBound_eq (h : arena.Mirrors arena') {types : List Ty} (htypes : types ≠ []) :
    arena.depthBound types = arena'.depthBound types :=
  Nat.le_antisymm (h.depthBound_le htypes) (h.symm.depthBound_le htypes)

end Mirrors

end Arena

end Typeflow
