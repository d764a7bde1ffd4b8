import Mathlib.Data.List.Perm.Subperm
import Typeflow.Proofs.Graph
import Typeflow.Proofs.Sequence

/-!
The depth-first search for cycles. The search is given by rules that set no limit to its length;
the limit of the search that runs is never reached, so the two agree. What it reports are simple
cycles of the part of the graph that can be reached: the path of the search is a chain of edges
without a repeated node, and a cycle is reported when an edge leads from its end back into it.
Nothing is missed: apart from the edges that close a reported cycle, no path from a node that was
searched goes on for ever, and every node that can be reached was searched.
-/

namespace Typeflow.Graph

/-- What a search has come to know: the nodes it has entered and the cycles it has found. -/
structure Findings (κ : Type) where
  visited : List κ
  cycles : List (List κ)

variable {κ : Type} [DecidableEq κ] {graph : Graph κ} {starts path nodes : List κ} {node u v : κ}
  {found found' found'' : Findings κ} {cycles : List (List κ)}

/-- The search by its rules. When the nodes are visited one after the other from the end of the
path, the first search becomes the second. -/
inductive Visits (graph : Graph κ) : List κ → List κ → Findings κ → Findings κ → Prop
  | done {path : List κ} {found : Findings κ} : Visits graph path [] found found
  | close {path rest : List κ} {node : κ} {found found' : Findings κ} : node ∈ path →
      Visits graph path rest
        { found with cycles := found.cycles ++ [path.dropWhile (· ≠ node)] } found' →
      Visits graph path (node :: rest) found found'
  | skip {path rest : List κ} {node : κ} {found found' : Findings κ} : node ∉ path →
      node ∈ found.visited → Visits graph path rest found found' →
      Visits graph path (node :: rest) found found'
  | enter {path rest : List κ} {node : κ} {found left found' : Findings κ} : node ∉ path →
      node ∉ found.visited →
      Visits graph (path ++ [node]) (graph.successors node)
        { found with visited := node :: found.visited } left →
      Visits graph path rest left found' → Visits graph path (node :: rest) found found'

namespace Visits

theorem append {nodes' : List κ} (h : graph.Visits path nodes found found')
    (h' : graph.Visits path nodes' found' found'') :
    graph.Visits path (nodes ++ nodes') found found'' := by
  induction h with
  | done => exact h'
  | close hmem _ ih => exact .close hmem (ih h')
  | skip hnot hvisited _ ih => exact .skip hnot hvisited (ih h')
  | enter hnot hvisited hinner _ _ ih => exact .enter hnot hvisited hinner (ih h')

theorem unique (h : graph.Visits path nodes found found')
    (h' : graph.Visits path nodes found found'') : found' = found'' := by
  induction h generalizing found'' with
  | done =>
    cases h' with
    | done => rfl
  | close hmem _ ih =>
    cases h' with
    | close _ hrest => exact ih hrest
    | skip hnot => exact absurd hmem hnot
    | enter hnot => exact absurd hmem hnot
  | skip hnot hvisited _ ih =>
    cases h' with
    | close hmem => exact absurd hmem hnot
    | skip _ _ hrest => exact ih hrest
    | enter _ hunvisited => exact absurd hvisited hunvisited
  | enter hnot hunvisited _ _ ihinner ih =>
    cases h' with
    | close hmem => exact absurd hmem hnot
    | skip _ hvisited => exact absurd hvisited hunvisited
    | enter _ _ hinner hrest =>
      obtain rfl := ihinner hinner
      exact ih hrest

end Visits

/-- The running search stands at the end of this path with these findings: its stack is the path,
and it knows the place of each node that is on it. -/
structure Search.Tracks (search : Search κ) (path : List κ) (found : Findings κ) : Prop where
  stack_eq : search.stack = path
  onStack_iff : ∀ node place, search.onStack.get? node = some place ↔ path[place]? = some node
  visited_iff : ∀ node, search.visited.value node = true ↔ node ∈ found.visited
  cycles_eq : search.cycles = found.cycles

theorem drop_eq_dropWhile {place : Nat} (hnodup : path.Nodup) (h : path[place]? = some node) :
    path.drop place = path.dropWhile (· ≠ node) := by
  obtain ⟨before, rest, rfl, hdrop⟩ := exists_dropWhile (List.mem_of_getElem? h)
  have hplace : place = before.length :=
    (List.getElem?_inj (List.getElem?_eq_some_iff.mp h).1 hnodup).mp (by rw [h]; simp)
  rw [hdrop, hplace, List.drop_left]

namespace Search.Tracks

variable {search : Search κ}

theorem start : (start : Search κ).Tracks [] ⟨[], []⟩ :=
  ⟨rfl, by simp [Search.start, Dictionary.get?_empty],
    by simp [Search.start, Dictionary.value, Dictionary.get?_empty], rfl⟩

theorem mem_path_iff (h : search.Tracks path found) :
    node ∈ path ↔ ∃ place, search.onStack.get? node = some place := by
  simp only [h.onStack_iff, List.mem_iff_getElem?]

/-- The cycle that is reported reaches from the place of the node to the end of the stack. -/
theorem close {place : Nat} (h : search.Tracks path found) (hnodup : path.Nodup)
    (hplace : search.onStack.get? node = some place) :
    Search.Tracks { search with cycles := search.cycles ++ [search.stack.drop place] }
      path { found with cycles := found.cycles ++ [path.dropWhile (· ≠ node)] } := by
  refine ⟨h.stack_eq, h.onStack_iff, h.visited_iff, ?_⟩
  rw [h.stack_eq, h.cycles_eq, drop_eq_dropWhile hnodup ((h.onStack_iff _ _).mp hplace)]

theorem enter (h : search.Tracks path found) (hnot : node ∉ path) :
    (search.enter node).Tracks (path ++ [node])
      { found with visited := node :: found.visited } := by
  refine ⟨by simp [Search.enter, h.stack_eq], fun v place => ?_, fun v => ?_, h.cycles_eq⟩
  · rw [Search.enter, Dictionary.get?_set, h.stack_eq, getElem?_concat_eq_some]
    by_cases hv : v = node
    · subst hv
      have hnone : path[place]? ≠ some v := fun hget => hnot (List.mem_of_getElem? hget)
      simp [hnone, eq_comm]
    · simp [hv, Ne.symm hv, h.onStack_iff]
  · have hvisited := h.visited_iff v
    unfold Dictionary.value at hvisited ⊢
    rw [Search.enter, Dictionary.get?_set]
    by_cases hv : v = node
    · simp [hv]
    · simpa [hv] using hvisited

theorem leave (h : search.Tracks (path ++ [node]) found) (hnot : node ∉ path) :
    (search.leave node).Tracks path found := by
  refine ⟨by simp [Search.leave, h.stack_eq], fun v place => ?_, h.visited_iff, h.cycles_eq⟩
  rw [Search.leave, Dictionary.get?_erase]
  by_cases hv : v = node
  · subst hv
    have hnone : path[place]? ≠ some v := fun hget => hnot (List.mem_of_getElem? hget)
    simp [hnone]
  · rw [if_neg hv, h.onStack_iff, getElem?_concat_eq_some]
    simp [Ne.symm hv]

end Search.Tracks

theorem visits_foldl {visitNode : Search κ → κ → Search κ} (nodes : List κ)
    (hvisit : ∀ node ∈ nodes, ∀ search found, search.Tracks path found →
      ∃ found', graph.Visits path [node] found found' ∧
        (visitNode search node).Tracks path found')
    {search : Search κ} (h : search.Tracks path found) :
    ∃ found', graph.Visits path nodes found found' ∧
      (nodes.foldl visitNode search).Tracks path found' := by
  induction nodes generalizing search found with
  | nil => exact ⟨found, .done, h⟩
  | cons first rest ih =>
    obtain ⟨hfirst, hrest⟩ := List.forall_mem_cons.mp hvisit
    obtain ⟨found₁, hvisits, h₁⟩ := hfirst search found h
    obtain ⟨found₂, hvisits', h₂⟩ := ih hrest h₁
    exact ⟨found₂, hvisits.append hvisits', h₂⟩

/-- The search that runs follows the rules. Its path has no node twice and the nodes have edges,
so the fuel is not used up. -/
theorem visits_visit (fuel : Nat) (path : List κ) (node : κ) (search : Search κ)
    (found : Findings κ) (h : search.Tracks path found)
    (hnodup : path.Nodup) (hsources : path ⊆ graph.sources)
    (hfuel : graph.adjacency.length < fuel + path.length) :
    ∃ found', graph.Visits path [node] found found' ∧
      (graph.visit fuel node search).Tracks path found' := by
  induction fuel generalizing path node search found with
  | zero =>
    have hle := (List.subperm_of_subset hnodup hsources).length_le
    rw [sources, List.length_map] at hle
    omega
  | succ fuel ih =>
    rw [visit]
    cases hplace : search.onStack.get? node with
    | some place =>
      exact ⟨_, .close (h.mem_path_iff.mpr ⟨place, hplace⟩) .done, h.close hnodup hplace⟩
    | none =>
      have hnot : node ∉ path := by
        rw [h.mem_path_iff, hplace]
        simp
      dsimp only
      split
      · rename_i hvisited
        exact ⟨_, .skip hnot ((h.visited_iff node).mp hvisited) .done, h⟩
      · rename_i hunvisited
        have hnodup' : (path ++ [node]).Nodup :=
          List.nodup_append'.mpr ⟨hnodup, List.nodup_singleton node, by simpa using hnot⟩
        obtain ⟨found', hinner, hafter⟩ := visits_foldl (graph.successors node)
          (fun next hnext search found h => ih (path ++ [node]) next search found h hnodup'
            (List.append_subset.mpr ⟨hsources, by simpa using mem_sources_of_edge hnext⟩)
            (by rw [List.length_append, List.length_singleton]; omega)) (h.enter hnot)
        refine ⟨found', .enter hnot (mt (h.visited_iff node).mpr hunvisited) hinner .done, ?_⟩
        exact hafter.leave hnot

/-- The search ends, and what it returns are the cycles that it finds by the rules. -/
theorem exists_visits (graph : Graph κ) (nodes : List κ) :
    ∃ found, graph.Visits [] nodes ⟨[], []⟩ found ∧ graph.cyclesFrom nodes = found.cycles := by
  have hvisit : ∀ node ∈ nodes, ∀ (search : Search κ) found, search.Tracks [] found →
      ∃ found', graph.Visits [] [node] found found' ∧
        (graph.visit (graph.adjacency.length + 1) node search).Tracks [] found' :=
    fun node _ search found h =>
      visits_visit _ [] node search found h List.nodup_nil (List.nil_subset _) (by simp)
  obtain ⟨found, hvisits, htracks⟩ := visits_foldl nodes hvisit Search.Tracks.start
  exact ⟨found, hvisits, htracks.cycles_eq⟩

/-- There is a path to the node from one of these. -/
def Reaches (graph : Graph κ) (starts : List κ) (v : κ) : Prop :=
  ∃ start ∈ starts, Relation.ReflTransGen graph.Edge start v

/-- The search can stand at the node, having come by this path. -/
structure Trail (graph : Graph κ) (starts path : List κ) (node : κ) : Prop where
  nodup : path.Nodup
  chain : (path ++ [node]).IsChain graph.Edge
  reached : ∀ u ∈ path ++ [node], graph.Reaches starts u

theorem trail_of_mem (h : node ∈ starts) : graph.Trail starts [] node := by
  refine ⟨List.nodup_nil, List.isChain_singleton node, fun u hu => ?_⟩
  obtain rfl := List.mem_singleton.mp hu
  exact ⟨u, h, .refl⟩

/-- The search goes along an edge from a node that is not on its path yet. -/
theorem Trail.extend (h : graph.Trail starts path u) (hnot : u ∉ path) (hedge : graph.Edge u v) :
    graph.Trail starts (path ++ [u]) v := by
  refine ⟨?_, ?_, ?_⟩
  · exact List.nodup_append'.mpr ⟨h.nodup, List.nodup_singleton u, by simpa using hnot⟩
  · exact h.chain.append_overlap (List.isChain_pair.mpr hedge) (by simp)
  · intro w hw
    rcases List.mem_append.mp hw with hw | hw
    · exact h.reached w hw
    · obtain rfl := List.mem_singleton.mp hw
      obtain ⟨start, hstart, hpath⟩ := h.reached u (by simp)
      exact ⟨start, hstart, hpath.tail hedge⟩

/-- All cycles reported so far are simple cycles that can be reached. -/
def Reliable (graph : Graph κ) (starts : List κ) (found : Findings κ) : Prop :=
  ∀ cycle ∈ found.cycles, graph.IsCycle cycle ∧ ∀ v ∈ cycle, graph.Reaches starts v

theorem Visits.reliable (h : graph.Visits path nodes found found')
    (htrail : ∀ node ∈ nodes, graph.Trail starts path node)
    (hstart : graph.Reliable starts found) :
    graph.Reliable starts found' := by
  induction h with
  | done => exact hstart
  | @close path rest node found _ hmem _ ih =>
    obtain ⟨hfirst, hrest⟩ := List.forall_mem_cons.mp htrail
    refine ih hrest fun cycle hcycle => ?_
    rcases List.mem_append.mp hcycle with hcycle | hcycle
    · exact hstart cycle hcycle
    · obtain rfl := List.mem_singleton.mp hcycle
      refine ⟨isCycle_dropWhile hfirst.nodup hfirst.chain hmem, fun v hv => hfirst.reached v ?_⟩
      exact List.mem_append_left _ ((List.dropWhile_suffix _).subset hv)
  | skip _ _ _ ih => exact ih (List.forall_mem_cons.mp htrail).2 hstart
  | enter hnot _ _ _ ihinner ih =>
    obtain ⟨hfirst, hrest⟩ := List.forall_mem_cons.mp htrail
    exact ih hrest (ihinner (fun next hnext => hfirst.extend hnot hnext) hstart)

/-- A reported cycle begins with the second node and ends with the first. -/
def Closes (cycles : List (List κ)) (u v : κ) : Prop :=
  ∃ cycle ∈ cycles, cycle.head? = some v ∧ cycle.getLast? = some u

/-- There is an edge to the first node from the second that closes no reported cycle. -/
def OpenEdge (graph : Graph κ) (cycles : List (List κ)) (v u : κ) : Prop :=
  graph.Edge u v ∧ ¬ Closes cycles u v

theorem acc_openEdge_mono {cycles' : List (List κ)} (hsubset : cycles ⊆ cycles')
    (h : Acc (graph.OpenEdge cycles) u) : Acc (graph.OpenEdge cycles') u := by
  refine Subrelation.accessible ?_ h
  intro v u hopen
  refine ⟨hopen.1, fun hcloses => hopen.2 ?_⟩
  obtain ⟨cycle, hcycle, hends⟩ := hcloses
  exact ⟨cycle, hsubset hcycle, hends⟩

/-- No path along open edges goes on for ever from a node that was visited and is not on the path
of the search any more. -/
def Settled (graph : Graph κ) (path : List κ) (found : Findings κ) : Prop :=
  ∀ u ∈ found.visited, u ∈ path ∨ Acc (graph.OpenEdge found.cycles) u

/-- What has been achieved when the nodes have been visited from the end of the path. -/
structure Explores (graph : Graph κ) (path nodes : List κ) (found found' : Findings κ) :
    Prop where
  cycles_subset : found.cycles ⊆ found'.cycles
  settled : graph.Settled path found'
  reached : ∀ node ∈ nodes, Acc (graph.OpenEdge found'.cycles) node ∨
    ∃ last, path.getLast? = some last ∧ Closes found'.cycles last node

theorem Explores.refl (h : graph.Settled path found) : graph.Explores path [] found found :=
  ⟨List.Subset.refl _, h, by simp⟩

theorem Explores.append {nodes' : List κ} (h : graph.Explores path nodes found found')
    (h' : graph.Explores path nodes' found' found'') :
    graph.Explores path (nodes ++ nodes') found found'' := by
  refine ⟨List.Subset.trans h.cycles_subset h'.cycles_subset, h'.settled, ?_⟩
  intro node hnode
  rcases List.mem_append.mp hnode with hnode | hnode
  · rcases h.reached node hnode with hacc | ⟨last, hlast, cycle, hcycle, hends⟩
    · exact Or.inl (acc_openEdge_mono h'.cycles_subset hacc)
    · exact Or.inr ⟨last, hlast, cycle, h'.cycles_subset hcycle, hends⟩
  · exact h'.reached node hnode

/-- An edge back into the path closes the cycle that is reported for it. -/
theorem explores_close (hmem : node ∈ path) (h : graph.Settled path found) :
    graph.Explores path [node] found
      { found with cycles := found.cycles ++ [path.dropWhile (· ≠ node)] } := by
  have hsubset : found.cycles ⊆
      found.cycles ++ [path.dropWhile fun other => decide (other ≠ node)] :=
    List.subset_append_left _ _
  refine ⟨hsubset, fun u hu => (h u hu).imp id (acc_openEdge_mono hsubset), ?_⟩
  intro node' hnode'
  obtain rfl := List.mem_singleton.mp hnode'
  obtain ⟨before, rest, hpath, hdrop⟩ := exists_dropWhile hmem
  have hlast : path.getLast? = some ((node' :: rest).getLast (by simp)) := by
    rw [hpath, List.getLast?_append_cons, List.getLast?_eq_some_getLast]
  refine Or.inr ⟨_, hlast, _, List.mem_append_right _ (List.mem_singleton_self _), ?_, ?_⟩
  · rw [hdrop]
    rfl
  · rw [hdrop, List.getLast?_eq_some_getLast]

/-- A node whose successors have been visited is settled: each of them is, or its edge is
closed. -/
theorem Explores.leave
    (h : graph.Explores (path ++ [node]) (graph.successors node) found found') :
    graph.Explores path [node] found found' := by
  have hacc : Acc (graph.OpenEdge found'.cycles) node := by
    refine Acc.intro node fun next hopen => (h.reached next hopen.1).resolve_right ?_
    intro hclosed
    obtain ⟨last, hlast, hcloses⟩ := hclosed
    rw [List.getLast?_concat] at hlast
    obtain rfl := Option.some.inj hlast
    exact hopen.2 hcloses
  refine ⟨h.cycles_subset, fun u hu => ?_, fun node' hnode' => Or.inl ?_⟩
  · rcases h.settled u hu with hpath | hsettled
    · rcases List.mem_append.mp hpath with hpath | hnode
      · exact Or.inl hpath
      · rw [List.mem_singleton.mp hnode]
        exact Or.inr hacc
    · exact Or.inr hsettled
  · rw [List.mem_singleton.mp hnode']
    exact hacc

/-- Visiting a node settles it, or reports the cycle that the edge to it closes. -/
theorem Visits.explores (h : graph.Visits path nodes found found')
    (hsettled : graph.Settled path found) : graph.Explores path nodes found found' := by
  induction h with
  | done => exact Explores.refl hsettled
  | close hmem _ ih =>
    have hfirst := explores_close hmem hsettled
    exact hfirst.append (ih hfirst.settled)
  | @skip path _ node found _ hnot hvisited _ ih =>
    have hfirst : graph.Explores path [node] found found := by
      refine ⟨List.Subset.refl _, hsettled, fun node' hnode' => Or.inl ?_⟩
      rw [List.mem_singleton.mp hnode']
      exact (hsettled node hvisited).resolve_left hnot
    exact hfirst.append (ih hsettled)
  | @enter path _ node found left _ _ _ _ _ ihinner ih =>
    have hstart : graph.Settled (path ++ [node])
        { found with visited := node :: found.visited } := by
      intro u hu
      rcases List.mem_cons.mp hu with rfl | hu
      · exact Or.inl (by simp)
      · exact (hsettled u hu).imp (fun hu => List.mem_append_left _ hu) id
    have hleave := (ihinner hstart).leave
    have hfirst : graph.Explores path [node] found left :=
      ⟨hleave.cycles_subset, hleave.settled, hleave.reached⟩
    exact hfirst.append (ih hfirst.settled)

/-- What visiting the nodes adds to those visited before: they have all been visited then, and so
have the successors of every node that was new. -/
structure Covers (graph : Graph κ) (nodes before after : List κ) : Prop where
  before_subset : before ⊆ after
  nodes_subset : nodes ⊆ after
  successors_subset : ∀ u ∈ after, u ∉ before → graph.successors u ⊆ after

section Covers

variable {before middle after : List κ}

theorem covers_of_subset (h : nodes ⊆ before) : graph.Covers nodes before before :=
  ⟨List.Subset.refl _, h, fun _ hu hold => absurd hu hold⟩

theorem covers_of_mem (h : node ∈ before) : graph.Covers [node] before before :=
  covers_of_subset (by simpa using h)

theorem Covers.append {nodes' : List κ} (h : graph.Covers nodes before middle)
    (h' : graph.Covers nodes' middle after) : graph.Covers (nodes ++ nodes') before after := by
  refine ⟨List.Subset.trans h.before_subset h'.before_subset, ?_, fun u hu hold => ?_⟩
  · exact List.append_subset.mpr
      ⟨List.Subset.trans h.nodes_subset h'.before_subset, h'.nodes_subset⟩
  · by_cases hmiddle : u ∈ middle
    · exact List.Subset.trans (h.successors_subset u hmiddle hold) h'.before_subset
    · exact h'.successors_subset u hu hmiddle

/-- A node is new when it is entered, and its successors have been visited when it is left. -/
theorem Covers.leave (h : graph.Covers (graph.successors node) (node :: before) after) :
    graph.Covers [node] before after := by
  obtain ⟨hnode, hbefore⟩ := List.cons_subset.mp h.before_subset
  refine ⟨hbefore, by simpa using hnode, fun u hu hold => ?_⟩
  by_cases hu' : u = node
  · rw [hu']
    exact h.nodes_subset
  · exact h.successors_subset u hu (by simp [hu', hold])

end Covers

theorem Visits.covers (h : graph.Visits path nodes found found')
    (hpath : path ⊆ found.visited) : graph.Covers nodes found.visited found'.visited := by
  induction h with
  | done => exact covers_of_subset (List.nil_subset _)
  | close hmem _ ih => exact (covers_of_mem (hpath hmem)).append (ih hpath)
  | skip _ hvisited _ ih => exact (covers_of_mem hvisited).append (ih hpath)
  | @enter path _ node found _ _ _ _ _ _ ihinner ih =>
    have hpath' : path ++ [node] ⊆ node :: found.visited :=
      List.append_subset.mpr ⟨List.subset_cons_of_subset _ hpath, by simp⟩
    have hfirst := (ihinner hpath').leave
    exact hfirst.append (ih (List.Subset.trans hpath hfirst.before_subset))

/-- Everything that can be reached from the nodes of the search is visited. -/
theorem Visits.mem_visited (h : graph.Visits [] nodes ⟨[], []⟩ found)
    (hreaches : graph.Reaches nodes v) : v ∈ found.visited := by
  have hcovers : graph.Covers nodes [] found.visited := h.covers (List.nil_subset _)
  obtain ⟨start, hstart, hpath⟩ := hreaches
  induction hpath with
  | refl => exact hcovers.nodes_subset hstart
  | tail _ hedge ih => exact hcovers.successors_subset _ ih (by simp) hedge

theorem isCycle_and_reaches_of_mem_cyclesFrom : ∀ cycle ∈ graph.cyclesFrom nodes,
    graph.IsCycle cycle ∧ ∀ v ∈ cycle, graph.Reaches nodes v := by
  obtain ⟨found, hvisits, hcycles⟩ := exists_visits graph nodes
  rw [hcycles]
  exact hvisits.reliable (fun _ hnode => trail_of_mem hnode) (by simp [Reliable])

theorem isCycle_of_mem_cyclesFrom : ∀ cycle ∈ graph.cyclesFrom nodes, graph.IsCycle cycle :=
  fun cycle hcycle => (isCycle_and_reaches_of_mem_cyclesFrom cycle hcycle).1

/-- From everything that can be reached every path ends unless it takes an edge that closes a
reported cycle. -/
theorem acc_of_reaches (h : graph.Reaches nodes v) :
    Acc (graph.OpenEdge (graph.cyclesFrom nodes)) v := by
  obtain ⟨found, hvisits, hcycles⟩ := exists_visits graph nodes
  have hsettled : graph.Settled [] found := (hvisits.explores (by simp [Settled])).settled
  rw [hcycles]
  exact (hsettled v (hvisits.mem_visited h)).resolve_left (by simp)

theorem acc_of_mem_nodes (h : node ∈ nodes) :
    Acc (graph.OpenEdge (graph.cyclesFrom nodes)) node :=
  acc_of_reaches ⟨node, h, .refl⟩

/-- A closed walk that can be reached has an edge that closes a reported cycle. -/
theorem exists_closes {ring : List κ} (hne : ring ≠ [])
    (hring : ∀ step ∈ ringSteps ring, graph.Edge step.1 step.2)
    (hreached : ∀ v ∈ ring, graph.Reaches nodes v) :
    ∃ step ∈ ringSteps ring, Closes (graph.cyclesFrom nodes) step.1 step.2 := by
  by_contra hnone
  -- Otherwise all its edges are open, and going around it never ends.
  have hopen : ∀ step ∈ ringSteps ring,
      Function.swap (graph.OpenEdge (graph.cyclesFrom nodes)) step.1 step.2 := fun step hstep =>
    ⟨hring step hstep, fun hcloses => hnone ⟨step, hstep, hcloses⟩⟩
  cases ring with
  | nil => exact hne rfl
  | cons first rest =>
    have hcycle := Relation.transGen_swap.mp (transGen_of_ring (forall_ringSteps.mp hopen))
    exact not_transGen_self_of_acc (acc_of_reaches (hreached first List.mem_cons_self)) hcycle

/-- The search for cycles is sound and complete. It ends, in one way only. What it returns are
simple cycles of the graph. Of every closed walk that can be reached from the nodes, some edge
leads from the end of a returned list to its beginning. So nothing is returned exactly if no cycle
can be reached. -/
theorem cyclesFrom_sound_and_complete (graph : Graph κ) (nodes : List κ) :
    (∃ last, (∀ found, graph.Visits [] nodes ⟨[], []⟩ found ↔ found = last) ∧
      graph.cyclesFrom nodes = last.cycles) ∧
    (∀ cycle ∈ graph.cyclesFrom nodes, graph.IsCycle cycle) ∧
    (∀ ring ≠ [], (∀ step ∈ ringSteps ring, graph.Edge step.1 step.2) →
      (∀ v ∈ ring, graph.Reaches nodes v) →
      ∃ step ∈ ringSteps ring, Closes (graph.cyclesFrom nodes) step.1 step.2) ∧
    (graph.cyclesFrom nodes = [] ↔
      ¬ ∃ cycle, graph.IsCycle cycle ∧ ∀ v ∈ cycle, graph.Reaches nodes v) := by
  obtain ⟨last, hvisits, hcycles⟩ := exists_visits graph nodes
  refine ⟨⟨last, fun found => ⟨fun h => h.unique hvisits, fun h => h ▸ hvisits⟩, hcycles⟩,
    isCycle_of_mem_cyclesFrom,
    fun ring hne hring hreached => exists_closes hne hring hreached, ?_⟩
  constructor
  · rintro hempty ⟨cycle, hcycle, hreached⟩
    obtain ⟨step, _, reported, hmem, _⟩ := exists_closes hcycle.ne_nil hcycle.edge hreached
    rw [hempty] at hmem
    cases hmem
  · intro hnone
    refine List.eq_nil_iff_forall_not_mem.mpr fun cycle hcycle => hnone ⟨cycle, ?_⟩
    exact isCycle_and_reaches_of_mem_cyclesFrom cycle hcycle

/-- From `0` the closed walk through `0, 1, 2, 1, 2` can be reached, and the loop at `3`
cannot. -/
theorem cyclesFrom_sound_and_complete_of_nested_cycles :
    let graph : Graph Nat := ⟨[(0, [1]), (1, [2]), (2, [0, 1]), (3, [3])]⟩
    graph.cyclesFrom [0] = [[0, 1, 2], [1, 2]] ∧ graph.IsCycle [0, 1, 2] ∧ graph.IsCycle [1, 2] ∧
      (∀ step ∈ ringSteps [0, 1, 2, 1, 2], graph.Edge step.1 step.2) ∧
      ∃ step ∈ ringSteps [0, 1, 2, 1, 2], Closes (graph.cyclesFrom [0]) step.1 step.2 := by
  intro graph
  have hcycles : graph.cyclesFrom [0] = [[0, 1, 2], [1, 2]] := by decide
  have hring : ∀ step ∈ ringSteps [0, 1, 2, 1, 2], graph.Edge step.1 step.2 := by decide
  have hone : graph.Reaches [0] 1 := ⟨0, by simp, .single (by decide)⟩
  have htwo : graph.Reaches [0] 2 :=
    ⟨0, by simp, .tail (.single (show graph.Edge 0 1 by decide)) (by decide)⟩
  obtain ⟨_, hsound, hcomplete, _⟩ := cyclesFrom_sound_and_complete graph [0]
  refine ⟨hcycles, hsound _ (by simp [hcycles]), hsound _ (by simp [hcycles]), hring,
    hcomplete _ (by simp) hring ?_⟩
  intro v hv
  have hnode : v = 0 ∨ v = 1 ∨ v = 2 := by
    simp only [List.mem_cons, List.not_mem_nil, or_false] at hv
    omega
  rcases hnode with rfl | rfl | rfl
  · exact ⟨0, by simp, .refl⟩
  · exact hone
  · exact htwo

end Typeflow.Graph
