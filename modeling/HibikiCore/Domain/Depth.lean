import HibikiCore.Domain.Acyclic

/-!
# How deep the search of a graph goes

Every call of the search takes a frame of the interpreter's stack, and a call without one raises.
`Overruns` says of the graph alone when that happens: some branch of the search is as long as there
are frames. A branch starts at a node of the plan and goes on to a successor, as long as it comes
to nodes that nothing before it has led to, which is where the search turns back.

In a graph without cycles the search has left exactly the nodes that those before led to, so a
search for each list of nodes either has no branch that long, or raises.
-/

namespace HibikiCore

section Branches

/-- One of the nodes leads to `u`, in any number of steps. -/
def Reached (adj : String → List String) (before : List String) (u : String) : Prop :=
  ∃ w ∈ before, Relation.ReflTransGen (Leads adj) w u

/-- Some member of a list is as `P` says, after the members before it. -/
def SomeAfter (P : List String → String → Prop) (before nodes : List String) : Prop :=
  ∃ l u r, nodes = l ++ u :: r ∧ P (before ++ l) u

/-- A branch of the search from `u` uses up the frames, when the nodes before were searched
already. -/
def Exceeds (adj : String → List String) : Nat → List String → String → Prop
  | 0, _, _ => True
  | frames + 1, before, u =>
    ¬Reached adj before u ∧ SomeAfter (Exceeds adj frames) before (adj u)

variable {adj : String → List String} {P : List String → String → Prop}
  {before nodes : List String} {u w : String}

theorem SomeAfter.nil : ¬SomeAfter P before [] := by
  rintro ⟨l, u, r, h, -⟩
  simp at h

theorem someAfter_cons :
    SomeAfter P before (u :: nodes) ↔ P before u ∨ SomeAfter P (before ++ [u]) nodes := by
  constructor
  · rintro ⟨l, v, r, h, hv⟩
    rcases List.cons_eq_append_iff.mp h with ⟨rfl, hcons⟩ | ⟨l', rfl, hnodes⟩
    · obtain ⟨rfl, rfl⟩ := List.cons.inj hcons
      exact .inl (by simpa using hv)
    · exact .inr ⟨l', v, r, hnodes, by simpa using hv⟩
  · rintro (h | ⟨l, v, r, rfl, hv⟩)
    · exact ⟨[], u, nodes, rfl, by simpa using h⟩
    · exact ⟨u :: l, v, r, rfl, by simpa using hv⟩

theorem not_reached_nil : ¬Reached adj [] u := by simp [Reached]

theorem reached_append {after : List String} :
    Reached adj (before ++ after) w ↔ Reached adj before w ∨ Reached adj after w := by
  simp [Reached, or_and_right, exists_or]

/-- A node leads to itself and to what its successors lead to. -/
theorem reached_singleton : Reached adj [u] w ↔ w = u ∨ Reached adj (adj u) w := by
  simp only [Reached, List.mem_singleton, exists_eq_left]
  rw [Relation.ReflTransGen.cases_head_iff]
  exact or_congr eq_comm Iff.rfl

/-! ## The search takes exactly these branches -/

/-- The search has left exactly the nodes that those before led to. -/
def Visits (adj : String → List String) (visited before : List String) : Prop :=
  ∀ w, w ∈ visited ↔ Reached adj before w

/-- What becomes of a search: it raises, and does so on a branch that is too long, or there is none
and it leaves what the nodes lead to. -/
inductive Ends (adj : String → List String) (before : List String) (exceeds : Prop) :
    Except Error (List String) → Prop
  | raised (h : exceeds) : Ends adj before exceeds (.error .recursion)
  | left {visited : List String} (visits : Visits adj visited before) (h : ¬exceeds) :
      Ends adj before exceeds (.ok visited)

theorem foldlM_ends {search : List String → String → Except Error (List String)} :
    ∀ {nodes before visited : List String},
      (∀ {before visited : List String}, ∀ u ∈ nodes, Visits adj visited before →
        Ends adj (before ++ [u]) (P before u) (search visited u)) →
      Visits adj visited before →
        Ends adj (before ++ nodes) (SomeAfter P before nodes) (nodes.foldlM search visited) := by
  intro nodes
  induction nodes with
  | nil =>
    intro before visited _ hvisits
    exact .left (by simpa using hvisits) SomeAfter.nil
  | cons u nodes ih =>
    intro before visited hsearch hvisits
    rw [List.foldlM_cons, someAfter_cons]
    cases hfirst : search visited u with
    | error e =>
      have hends := hsearch u List.mem_cons_self hvisits
      rw [hfirst] at hends
      cases hends with
      | raised h => exact .raised (.inl h)
    | ok visited' =>
      have hends := hsearch u List.mem_cons_self hvisits
      rw [hfirst] at hends
      cases hends with
      | left hvisits' h =>
        have hrest := ih (fun v hv ↦ hsearch v (List.mem_cons_of_mem _ hv)) hvisits'
        rw [List.append_assoc, List.singleton_append] at hrest
        change Ends _ _ _ (nodes.foldlM search visited')
        simpa [h] using hrest

/-- In a graph without cycles a search ends as its branches say. -/
theorem dfs_ends (hacyclic : ∀ u, ¬Relation.TransGen (Leads adj) u u) :
    ∀ {frames : Nat} {visiting visited before : List String} {u : String},
      Visits adj visited before → (∀ w ∈ visiting, Relation.TransGen (Leads adj) w u) →
        Ends adj (before ++ [u]) (Exceeds adj frames before u)
          (dfs adj frames visiting visited u) := by
  intro frames
  induction frames with
  | zero =>
    intro visiting visited before u _ _
    exact .raised trivial
  | succ frames ih =>
    intro visiting visited before u hvisits hinside
    have hvisiting : ¬visiting.contains u := by
      rw [List.contains_iff_mem]
      exact fun hu ↦ hacyclic u (hinside u hu)
    rw [dfs_succ, if_neg hvisiting]
    by_cases hreached : Reached adj before u
    · rw [if_pos (by rw [List.contains_iff_mem]; exact (hvisits u).mpr hreached)]
      refine .left (fun w ↦ ?_) fun hexceeds ↦ hexceeds.1 hreached
      rw [hvisits w, reached_append]
      refine ⟨.inl, fun h ↦ h.elim id ?_⟩
      -- what `u` leads to was led to when `u` was
      rintro ⟨_, hu, hw⟩
      rw [List.mem_singleton] at hu
      obtain ⟨v, hv, hvu⟩ := hreached
      exact ⟨v, hv, hvu.trans (hu ▸ hw)⟩
    · rw [if_neg (by rw [List.contains_iff_mem]; exact mt (hvisits u).mp hreached)]
      have hfold : Ends adj (before ++ adj u) (SomeAfter (Exceeds adj frames) before (adj u))
          ((adj u).foldlM (dfs adj frames (u :: visiting)) visited) := by
        refine foldlM_ends (fun v hv hvisits' ↦ ih hvisits' fun w hw ↦ ?_) hvisits
        rcases List.mem_cons.mp hw with rfl | hw
        · exact .single hv
        · exact (hinside w hw).tail hv
      generalize (adj u).foldlM (dfs adj frames (u :: visiting)) visited = last at hfold
      cases hfold with
      | raised h => exact .raised ⟨hreached, h⟩
      | left hvisits' h =>
        refine .left (fun w ↦ ?_) fun hexceeds ↦ h hexceeds.2
        rw [List.mem_cons, hvisits' w, reached_append, reached_append, reached_singleton]
        exact or_left_comm

end Branches

/-! ## Validation -/

/-- Some branch of the search over the nodes of a plan uses up the frames. -/
def Overruns (frames : Nat) (nodes : List PlanNode) (edges : List PlanEdge) : Prop :=
  SomeAfter (Exceeds (successors edges) frames) [] (nodes.map PlanNode.workUnitId)

variable {frames : Nat} {nodes : List PlanNode} {edges : List PlanEdge}

/-- Validation of a well-formed graph raises, or accepts it, as its branches say. -/
theorem WellFormedGraph.ends (h : WellFormedGraph nodes edges) :
    Overruns frames nodes edges ∧ validateDag frames nodes edges = .error .recursion ∨
      ¬Overruns frames nodes edges ∧ validateDag frames nodes edges = .ok () := by
  have hacyclic : ∀ u, ¬Relation.TransGen (Leads (successors edges)) u u := by
    rw [leads_successors]
    exact h.acyclic
  have hends : Ends (successors edges) (nodes.map PlanNode.workUnitId)
      (Overruns frames nodes edges) (search frames nodes edges) :=
    foldlM_ends (fun _ _ hvisits ↦ dfs_ends hacyclic hvisits fun _ hw ↦ absurd hw List.not_mem_nil)
      fun _ ↦ iff_of_false List.not_mem_nil not_reached_nil
  rw [h.validateDag_eq]
  generalize search frames nodes edges = last at hends
  cases hends with
  | raised hover => exact .inl ⟨hover, rfl⟩
  | left _ hover => exact .inr ⟨hover, rfl⟩

theorem WellFormedGraph.accepted_iff (h : WellFormedGraph nodes edges) :
    validateDag frames nodes edges = .ok () ↔ ¬Overruns frames nodes edges := by
  rcases h.ends with ⟨hover, herror⟩ | ⟨hover, hok⟩
  · rw [herror]
    exact iff_of_false (fun h ↦ (nomatch h)) (not_not.mpr hover)
  · exact iff_of_true hok hover

/-- Validation accepts exactly the well-formed graphs as long as the branches of its search have
the frames they need; a frame more than the graph has nodes is always enough. -/
theorem validateDag_exact_iff (frames : Nat) (nodes : List PlanNode) (edges : List PlanEdge) :
    ((validateDag frames nodes edges = .ok () ↔ WellFormedGraph nodes edges) ↔
        (WellFormedGraph nodes edges → ¬Overruns frames nodes edges)) ∧
      (nodes.length < frames → validateDag frames nodes edges ≠ .error .recursion) := by
  refine ⟨?_, validateDag_ne_recursion⟩
  constructor
  · exact fun h hgraph ↦ hgraph.accepted_iff.mp (h.mpr hgraph)
  · exact fun h ↦ ⟨.of_validateDag, fun hgraph ↦ hgraph.accepted_iff.mpr (h hgraph)⟩

/-! ### A chain of nodes -/

/-- The names `n`, `nn`, `nnn` and so on. -/
def chainName (i : Nat) : String := String.ofList (List.replicate (i + 1) 'n')

def chainNodes (n : Nat) : List PlanNode :=
  (List.range (n + 1)).map fun i ↦ ⟨chainName i, 1, "EXECUTE"⟩

def chainEdges (n : Nat) : List PlanEdge :=
  (List.range n).map fun i ↦ ⟨chainName i, chainName (i + 1), .done, none⟩

theorem chainName_inj {i j : Nat} : chainName i = chainName j ↔ i = j := by
  constructor
  · intro h
    have hlength := congrArg String.length h
    simpa [chainName] using hlength
  · rintro rfl
    rfl

theorem edgeTo_chain {n : Nat} {u v : String} (h : EdgeTo (chainEdges n) u v) :
    v.length = u.length + 1 := by
  obtain ⟨e, he, rfl, rfl⟩ := h
  obtain ⟨i, -, rfl⟩ := List.mem_map.mp he
  simp [chainName]

theorem wellFormed_chain (n : Nat) : WellFormedGraph (chainNodes n) (chainEdges n) where
  nonempty := by simp [chainNodes]
  distinct := by
    rw [chainNodes, List.map_map]
    exact List.nodup_range.map fun i j h ↦ chainName_inj.mp h
  edge e he := by
    obtain ⟨i, hi, rfl⟩ := List.mem_map.mp he
    rw [List.mem_range] at hi
    refine ⟨⟨_, List.mem_map.mpr ⟨i, List.mem_range.mpr (by omega), rfl⟩, rfl⟩,
      ⟨_, List.mem_map.mpr ⟨i + 1, List.mem_range.mpr (by omega), rfl⟩, rfl⟩, fun h ↦ ?_⟩
    cases h
  acyclic u h := by
    have hlength {v : String} (h : Relation.TransGen (EdgeTo (chainEdges n)) u v) :
        u.length < v.length := by
      induction h with
      | single h => exact (edgeTo_chain h).symm ▸ Nat.lt_succ_self _
      | tail _ h ih => exact (edgeTo_chain h).symm ▸ Nat.lt_succ_of_lt ih
    exact Nat.lt_irrefl _ (hlength h)

theorem successors_chain {n i : Nat} (hi : i < n) :
    successors (chainEdges n) (chainName i) = [chainName (i + 1)] := by
  have hfilter : (List.range n).filter (fun j ↦ chainName j == chainName i) = [i] := by
    have hsame : (fun j ↦ chainName j == chainName i) = (· == i) := by
      funext j
      simp [chainName_inj]
    rw [hsame, List.filter_beq,
      List.count_eq_one_of_mem List.nodup_range (List.mem_range.mpr hi)]
    rfl
  rw [successors, chainEdges, List.filter_map, List.map_map]
  exact congrArg (List.map _) hfilter

/-- A chain is one branch. -/
theorem exceeds_chain {n : Nat} : ∀ {frames i : Nat}, i + frames ≤ n →
    Exceeds (successors (chainEdges n)) frames [] (chainName i) := by
  intro frames
  induction frames with
  | zero => exact fun _ ↦ trivial
  | succ frames ih =>
    intro i hi
    refine ⟨not_reached_nil, [], chainName (i + 1), [], successors_chain (by omega), ?_⟩
    exact ih (by omega)

/-- A chain that is longer than there are frames is well formed and not accepted. -/
theorem overruns_chain {n : Nat} (h : frames ≤ n) :
    Overruns frames (chainNodes n) (chainEdges n) := by
  refine ⟨[], chainName 0, (List.range n).map fun i ↦ chainName (i + 1), ?_, ?_⟩
  · rw [chainNodes, List.map_map, List.range_succ_eq_map]
    simp [Function.comp_def]
  · exact exceeds_chain (by omega)

/-- With the interpreter's usual limit of a thousand calls, a chain of one node more is refused. -/
theorem validateDag_chain :
    WellFormedGraph (chainNodes 1000) (chainEdges 1000) ∧
      validateDag 1000 (chainNodes 1000) (chainEdges 1000) = .error .recursion := by
  refine ⟨wellFormed_chain 1000, ?_⟩
  rcases (wellFormed_chain 1000).ends with ⟨-, herror⟩ | ⟨hnever, -⟩
  · exact herror
  · exact absurd (overruns_chain (Nat.le_refl 1000)) hnever

end HibikiCore
