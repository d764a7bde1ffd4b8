import Mathlib.Data.List.Chain
import Mathlib.Data.List.Nodup
import Mathlib.Logic.Relation
import Typeflow.Graph

/-!
Rings and cycles. A list is closed to a ring by the step from its last element to its first, and a
simple cycle of a graph is a ring of edges without a repeated node. A relation that holds around a
ring leads from an element back to itself. Where only some nodes of a graph have labels, the
labels on a cycle form a ring again. An edge from the end of a path back into it closes a simple
cycle.
-/

namespace Typeflow

/-- The neighbours in a list that is closed to a ring: every element with the next one, and the
last with the first. -/
def ringSteps {α : Type} : List α → List (α × α)
  | [] => []
  | first :: rest => (first :: rest).zip (rest ++ [first])

section Ring

variable {α : Type} {R : α → α → Prop} {first last : α} {ring rest : List α}

private theorem forall_zip_concat :
    (∀ step ∈ (first :: rest).zip (rest ++ [last]), R step.1 step.2) ↔
      (first :: (rest ++ [last])).IsChain R := by
  induction rest generalizing first with
  | nil => simp
  | cons second rest ih =>
    rw [List.cons_append, List.zip_cons_cons, List.forall_mem_cons, ih, List.isChain_cons_cons]

/-- The neighbours in a ring are related if the ring is a chain that comes back to its start. -/
theorem forall_ringSteps :
    (∀ step ∈ ringSteps (first :: rest), R step.1 step.2) ↔
      (first :: (rest ++ [first])).IsChain R :=
  forall_zip_concat

theorem isChain_of_ring (h : ∀ step ∈ ringSteps ring, R step.1 step.2) : ring.IsChain R := by
  cases ring with
  | nil => exact List.isChain_nil
  | cons first rest =>
    have hchain : ((first :: rest) ++ [first]).IsChain R := forall_ringSteps.mp h
    exact hchain.left_of_append

theorem mem_ringSteps (hfirst : ring.head? = some first) (hlast : ring.getLast? = some last) :
    (last, first) ∈ ringSteps ring := by
  cases ring with
  | nil => cases hfirst
  | cons start rest =>
    obtain rfl : start = first := Option.some.inj hfirst
    rcases List.eq_nil_or_concat' rest with rfl | ⟨middle, final, rfl⟩
    · obtain rfl : start = last := Option.some.inj hlast
      simp [ringSteps]
    · have hfinal : final = last := by
        rw [← List.cons_append, List.getLast?_concat] at hlast
        exact Option.some.inj hlast
      subst hfinal
      have hlength : (start :: middle).length = (middle ++ [final]).length := by simp
      rw [ringSteps, ← List.cons_append, List.zip_append hlength]
      simp

theorem fst_mem_of_ringStep {step : α × α} (h : step ∈ ringSteps ring) : step.1 ∈ ring := by
  cases ring with
  | nil => cases h
  | cons first rest => exact (List.of_mem_zip h).1

theorem exists_ringStep_to {target : α} (h : target ∈ ring) :
    ∃ source, (source, target) ∈ ringSteps ring := by
  cases ring with
  | nil => cases h
  | cons first rest =>
    have hmem : target ∈ rest ++ [first] := by
      rw [List.mem_append, List.mem_singleton]
      exact (List.mem_cons.mp h).symm
    obtain ⟨i, hi, hget⟩ := List.mem_iff_getElem.mp hmem
    have hlength : i < (first :: rest).length := by simpa using hi
    refine ⟨(first :: rest)[i], List.mem_iff_getElem.mpr ⟨i, ?_, ?_⟩⟩
    · rw [ringSteps, List.length_zip]
      omega
    · simp [ringSteps, hget]

theorem transGen_of_ring (h : (first :: (rest ++ [first])).IsChain R) :
    Relation.TransGen R first first := by
  have hchain : ∀ {start : α}, (start :: (rest ++ [first])).IsChain R →
      Relation.TransGen R start first := by
    clear h
    induction rest with
    | nil =>
      intro start h
      exact .single (List.isChain_pair.mp h)
    | cons second rest ih =>
      intro start h
      obtain ⟨hstep, hrest⟩ := List.isChain_cons_cons.mp h
      exact .head hstep (ih hrest)
  exact hchain h

theorem not_transGen_self_of_acc (h : Acc R first) : ¬ Relation.TransGen R first first := by
  have hacc := h.transGen
  clear h
  induction hacc with
  | intro node _ ih => exact fun hcycle => ih node hcycle hcycle

end Ring

section Labels

variable {α κ : Type}

/-- Some nodes have labels, and no two others follow each other. Labels are related if there is an
edge from the one node to the other, or a path through a node without a label. -/
structure Labels (E : κ → κ → Prop) (label? : κ → Option α) (W : α → α → Prop) : Prop where
  direct : ∀ u v s t, E u v → label? u = some s → label? v = some t → W s t
  through : ∀ u r v s t, E u r → E r v → label? u = some s → label? r = none →
    label? v = some t → W s t
  labelled : ∀ r v, E r v → label? r = none → ∃ t, label? v = some t

variable {E : κ → κ → Prop} {label? : κ → Option α} {W : α → α → Prop} {u v r : κ} {s t : α}
  {cycle : List κ}

/-- The labels on a path from one labelled node to another form a chain. -/
theorem Labels.isChain_filterMap (h : Labels E label? W) {rest : List κ} (hu : label? u = some s)
    (hv : label? v = some t) (hchain : (u :: (rest ++ [v])).IsChain E) :
    ((u :: (rest ++ [v])).filterMap label?).IsChain W := by
  induction hlength : rest.length using Nat.strong_induction_on generalizing u s rest with
  | _ length ih =>
    match rest with
    | [] =>
      have hedge : E u v := List.isChain_pair.mp hchain
      simpa [hu, hv] using h.direct u v s t hedge hu hv
    | next :: rest =>
      obtain ⟨hedge, hrest⟩ := List.isChain_cons_cons.mp hchain
      rw [List.filterMap_cons_some hu, List.cons_append]
      cases hnext : label? next with
      | some w =>
        have htail := ih rest.length (by simp [← hlength]) hnext hrest rfl
        rw [List.filterMap_cons_some hnext] at htail ⊢
        exact List.isChain_cons_cons.mpr ⟨h.direct u next s w hedge hu hnext, htail⟩
      | none =>
        -- What follows a node without a label has one.
        rw [List.filterMap_cons_none hnext]
        match rest with
        | [] =>
          have hlast : E next v := List.isChain_pair.mp hrest
          simpa [hv] using h.through u next v s t hedge hlast hu hnext hv
        | second :: rest =>
          obtain ⟨hedge', hrest'⟩ := List.isChain_cons_cons.mp hrest
          obtain ⟨w, hsecond⟩ := h.labelled next second hedge' hnext
          have hshorter : rest.length < length := by
            rw [← hlength, List.length_cons, List.length_cons]
            omega
          have htail := ih rest.length hshorter hsecond hrest' rfl
          rw [List.cons_append]
          rw [List.filterMap_cons_some hsecond] at htail ⊢
          exact List.isChain_cons_cons.mpr
            ⟨h.through u next second s w hedge hedge' hu hnext hsecond, htail⟩

/-- The labels on a cycle form a ring. -/
theorem Labels.ring_filterMap (h : Labels E label? W)
    (hcycle : ∀ step ∈ ringSteps cycle, E step.1 step.2) :
    ∀ step ∈ ringSteps (cycle.filterMap label?), W step.1 step.2 := by
  cases cycle with
  | nil => simp [ringSteps]
  | cons first rest =>
    have hchain := forall_ringSteps.mp hcycle
    cases hfirst : label? first with
    | some s =>
      have hlabels := h.isChain_filterMap hfirst hfirst hchain
      rw [List.filterMap_cons_some hfirst] at hlabels ⊢
      exact forall_ringSteps.mpr (by simpa [hfirst] using hlabels)
    | none =>
      rw [List.filterMap_cons_none hfirst]
      cases rest with
      | nil => simp [ringSteps]
      | cons second rest =>
        -- The same cycle, begun with its second node.
        obtain ⟨hedge, hrest⟩ := List.isChain_cons_cons.mp hchain
        obtain ⟨t, hsecond⟩ := h.labelled first second hedge hfirst
        have hpath : ((second :: rest) ++ [first]).IsChain E := hrest
        have hturned := hpath.append_overlap (List.isChain_pair.mpr hedge) (by simp)
        have hlabels := h.isChain_filterMap hsecond hsecond hturned
        rw [List.filterMap_cons_some hsecond] at hlabels ⊢
        exact forall_ringSteps.mpr (by simpa [hfirst, hsecond] using hlabels)

theorem head?_filterMap_of_label (hfirst : cycle.head? = some v) (hv : label? v = some t) :
    (cycle.filterMap label?).head? = some t := by
  cases cycle with
  | nil => cases hfirst
  | cons first rest =>
    obtain rfl := Option.some.inj hfirst
    rw [List.filterMap_cons_some hv, List.head?_cons]

theorem getLast?_filterMap_of_label (hlast : cycle.getLast? = some u) (hu : label? u = some s) :
    (cycle.filterMap label?).getLast? = some s := by
  obtain ⟨front, rfl⟩ := List.getLast?_eq_some_iff.mp hlast
  rw [List.filterMap_append, List.filterMap_cons_some hu, List.filterMap_nil,
    List.getLast?_concat]

/-- Where a cycle begins with a node without a label, its first label is that of the next node. -/
theorem head?_filterMap_of_none (hcycle : ∀ step ∈ ringSteps cycle, E step.1 step.2)
    (hfirst : cycle.head? = some r) (hr : label? r = none) (hlast : cycle.getLast? = some u)
    (hu : label? u = some s) (hnext : ∀ w, E r w → label? w = some t) :
    (cycle.filterMap label?).head? = some t := by
  cases cycle with
  | nil => cases hfirst
  | cons first rest =>
    obtain rfl := Option.some.inj hfirst
    cases rest with
    | nil =>
      obtain rfl : first = u := Option.some.inj hlast
      rw [hr] at hu
      cases hu
    | cons second rest =>
      have hedge := (List.isChain_cons_cons.mp (isChain_of_ring hcycle)).1
      rw [List.filterMap_cons_none hr, List.filterMap_cons_some (hnext second hedge),
        List.head?_cons]

/-- Where a cycle ends with a node without a label, its last label is that of the node before. -/
theorem getLast?_filterMap_of_none (hcycle : ∀ step ∈ ringSteps cycle, E step.1 step.2)
    (hfirst : cycle.head? = some v) (hv : label? v = some t) (hlast : cycle.getLast? = some r)
    (hr : label? r = none) (hprevious : ∀ w, E w r → label? w = some s) :
    (cycle.filterMap label?).getLast? = some s := by
  obtain ⟨front, rfl⟩ := List.getLast?_eq_some_iff.mp hlast
  rcases List.eq_nil_or_concat' front with rfl | ⟨before, w, rfl⟩
  · obtain rfl := Option.some.inj hfirst
    rw [hr] at hv
    cases hv
  · have hchain := isChain_of_ring hcycle
    rw [List.append_assoc] at hchain
    have hedge : E w r := List.isChain_pair.mp hchain.right_of_append
    rw [List.filterMap_append, List.filterMap_cons_none hr, List.filterMap_nil, List.append_nil]
    exact getLast?_filterMap_of_label List.getLast?_concat (hprevious w hedge)

end Labels

namespace Graph

variable {κ : Type} [DecidableEq κ] {graph : Graph κ} {path : List κ} {node u v : κ}

def Edge (graph : Graph κ) (u v : κ) : Prop := v ∈ graph.successors u

instance (graph : Graph κ) (u v : κ) : Decidable (graph.Edge u v) :=
  inferInstanceAs (Decidable (v ∈ graph.successors u))

theorem mem_sources_of_edge (h : graph.Edge u v) : u ∈ graph.sources := by
  unfold Edge successors at h
  split at h
  · rename_i targets hfind
    have hkey := List.find?_some hfind
    simp only [decide_eq_true_eq] at hkey
    exact List.mem_map.mpr ⟨_, List.mem_of_find?_eq_some hfind, hkey⟩
  · cases h

theorem successors_addEdge (graph : Graph κ) (source target : κ) :
    (graph.addEdge source target).successors node =
      if node = source then graph.successors node ++ [target] else graph.successors node := by
  obtain ⟨adjacency⟩ := graph
  unfold addEdge
  split
  · rename_i hany
    -- The function on entries, written with projections.
    show successors ⟨adjacency.map fun entry =>
      if entry.1 = source then (entry.1, entry.2 ++ [target]) else entry⟩ node = _
    unfold successors
    rw [List.find?_map]
    have hkeys : ((fun entry : κ × List κ => decide (entry.1 = node)) ∘ fun entry : κ × List κ =>
        if entry.1 = source then (entry.1, entry.2 ++ [target]) else entry) =
        fun entry => decide (entry.1 = node) := by
      funext entry
      by_cases hother : entry.1 = source
      · simp [hother]
      · simp [hother]
    rw [hkeys]
    cases hfind : adjacency.find? fun entry => decide (entry.1 = node) with
    | some entry =>
      have hkey := List.find?_some hfind
      simp only [decide_eq_true_eq] at hkey
      subst hkey
      by_cases hsource : entry.1 = source
      · simp [hsource]
      · simp [hsource]
    | none =>
      have hne : node ≠ source := by
        intro hsource
        subst hsource
        obtain ⟨entry, hentry, hkey⟩ := List.any_eq_true.mp hany
        exact List.find?_eq_none.mp hfind entry hentry hkey
      simp [hne]
  · rename_i hnone
    have hkeys : ∀ entry ∈ adjacency, entry.1 ≠ source := fun entry hentry heq =>
      hnone (List.any_eq_true.mpr ⟨entry, hentry, decide_eq_true heq⟩)
    unfold successors
    rw [List.find?_append]
    by_cases hsource : node = source
    · subst hsource
      have hfind : (adjacency.find? fun entry => decide (entry.1 = node)) = none :=
        List.find?_eq_none.mpr fun entry hentry => by simpa using hkeys entry hentry
      simp [hfind]
    · simp [hsource, Ne.symm hsource]

theorem edge_addEdge {source target : κ} :
    (graph.addEdge source target).Edge u v ↔ graph.Edge u v ∨ u = source ∧ v = target := by
  unfold Edge
  rw [successors_addEdge]
  by_cases hu : u = source
  · simp [hu]
  · simp [hu]

/-- The nodes form a simple cycle: there are edges from each to the next and from the last to the
first, and no node stands twice. -/
structure IsCycle (graph : Graph κ) (cycle : List κ) : Prop where
  ne_nil : cycle ≠ []
  nodup : cycle.Nodup
  edge : ∀ step ∈ ringSteps cycle, graph.Edge step.1 step.2

theorem exists_dropWhile (h : node ∈ path) :
    ∃ before rest, path = before ++ node :: rest ∧
      path.dropWhile (fun other => decide (other ≠ node)) = node :: rest := by
  induction path with
  | nil => cases h
  | cons first rest ih =>
    by_cases hfirst : first = node
    · subst hfirst
      exact ⟨[], rest, rfl, by simp⟩
    · obtain ⟨before, after, heq, hdrop⟩ :=
        ih ((List.mem_cons.mp h).resolve_left (Ne.symm hfirst))
      exact ⟨first :: before, after, by rw [heq]; rfl, by simpa [hfirst] using hdrop⟩

/-- An edge from the end of a path back into it closes a simple cycle. -/
theorem isCycle_dropWhile (hnodup : path.Nodup) (hchain : (path ++ [node]).IsChain graph.Edge)
    (hmem : node ∈ path) :
    graph.IsCycle (path.dropWhile fun other => decide (other ≠ node)) := by
  obtain ⟨before, rest, hpath, hdrop⟩ := exists_dropWhile hmem
  rw [hdrop]
  rw [hpath] at hnodup hchain
  refine ⟨by simp, hnodup.of_append_right, forall_ringSteps.mpr ?_⟩
  rw [List.append_assoc] at hchain
  exact hchain.right_of_append

end Graph

end Typeflow
