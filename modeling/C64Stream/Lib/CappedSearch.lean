import Mathlib.Tactic

/-! Searching a graph from a stack, with a limit to the depth at which links are followed. -/

namespace C64Stream

section Search

variable {Vertex : Type} [DecidableEq Vertex] (links : Vertex → List Vertex) (cap : Nat)

/-- The vertices that wait with the depth at which they were met, the next one first, and those
that were entered. -/
structure CappedSearch (Vertex : Type) where
  waiting : List (Vertex × Nat)
  entered : List Vertex

/-- The links of a vertex as they come to wait, the last one first. -/
def CappedSearch.met (vertex : Vertex) (depth : Nat) : List (Vertex × Nat) :=
  if depth < cap then ((links vertex).map (·, depth + 1)).reverse else []

/-- The next vertex is entered, unless it was entered before. -/
def CappedSearch.next (search : CappedSearch Vertex) : CappedSearch Vertex :=
  match search.waiting with
  | [] => search
  | (vertex, depth) :: rest =>
    if vertex ∈ search.entered then { search with waiting := rest }
    else
      { waiting := CappedSearch.met links cap vertex depth ++ rest
        entered := search.entered ++ [vertex] }

/-- The search before its first vertex. -/
def CappedSearch.start (root : Vertex) : CappedSearch Vertex where
  waiting := [(root, 0)]
  entered := []

/-- A way of some links through vertices that were not entered. -/
inductive Way (entered : List Vertex) : Vertex → Nat → Vertex → Prop where
  | here {vertex : Vertex} (fresh : vertex ∉ entered) : Way entered vertex 0 vertex
  | link {vertex next goal : Vertex} {n : Nat} (fresh : vertex ∉ entered)
    (linked : next ∈ links vertex) (rest : Way entered next n goal) :
    Way entered vertex (n + 1) goal

/-- A vertex that can be reached from another one within the limit. -/
def WithinCap (root goal : Vertex) : Prop :=
  ∃ n ≤ cap, Way links [] root n goal

/-- A vertex to which a way within the limit leads from one that waits. -/
def InReach (waiting : List (Vertex × Nat)) (entered : List Vertex) (goal : Vertex) : Prop :=
  ∃ vertex depth n, (vertex, depth) ∈ waiting ∧ Way links entered vertex n goal ∧ depth + n ≤ cap

/-- Entering a vertex keeps a goal that was in reach: a way within the limit leads to it from the
entered vertex, or from another one around the entered vertex. -/
def CappedSearch.Keeps (search : CappedSearch Vertex) (goal : Vertex) : Prop :=
  ∀ vertex depth rest, search.waiting = (vertex, depth) :: rest → vertex ∉ search.entered →
    InReach links cap search.waiting search.entered goal →
      InReach links cap [(vertex, depth)] search.entered goal ∨
        InReach links cap rest (search.entered ++ [vertex]) goal

/-- The depths of those that wait are within the limit. -/
def CappedSearch.WithinDepth (search : CappedSearch Vertex) : Prop :=
  ∀ vertex depth, (vertex, depth) ∈ search.waiting → depth ≤ cap

end Search

section Ways

variable {Vertex : Type} {links : Vertex → List Vertex}
  {entered : List Vertex} {vertex other goal : Vertex} {n : Nat}

theorem Way.start_fresh (way : Way links entered vertex n goal) : vertex ∉ entered := by
  cases way with
  | here fresh => exact fresh
  | link fresh => exact fresh

theorem Way.goal_fresh (way : Way links entered vertex n goal) : goal ∉ entered := by
  induction way with
  | here fresh => exact fresh
  | link _ _ _ ih => exact ih

theorem Way.of_subset {fewer : List Vertex} (subset : fewer ⊆ entered)
    (way : Way links entered vertex n goal) : Way links fewer vertex n goal := by
  induction way with
  | here fresh => exact .here fun among => fresh (subset among)
  | link fresh linked _ ih => exact .link (fun among => fresh (subset among)) linked ih

/-- A way ends at a vertex, leads around it, or goes on from it for the last time. -/
theorem Way.around (way : Way links entered other n goal) (vertex : Vertex) :
    goal = vertex ∨ Way links (entered ++ [vertex]) other n goal ∨
      ∃ next ∈ links vertex, ∃ m < n, Way links (entered ++ [vertex]) next m goal := by
  -- The induction is on the way, whose last visit to the vertex counts.
  induction way with
  | @here end' fresh =>
    by_cases same : end' = vertex
    · exact .inl same
    · exact .inr (.inl (.here (by simp [fresh, same])))
  | @link first next goal n fresh linked rest ih =>
    obtain ends | around | ⟨last, lastLinked, m, fewer, onward⟩ := ih
    · exact .inl ends
    · by_cases same : first = vertex
      · exact .inr (.inr ⟨next, same ▸ linked, n, n.lt_succ_self, around⟩)
      · exact .inr (.inl (.link (by simp [fresh, same]) linked around))
    · exact .inr (.inr ⟨last, lastLinked, m, by omega, onward⟩)

/-- What comes to wait are the links of a vertex, one step deeper, above the limit's depth. -/
theorem CappedSearch.mem_met {cap : Nat} {next : Vertex} {depth below : Nat} :
    (next, below) ∈ CappedSearch.met links cap vertex depth ↔
      depth < cap ∧ below = depth + 1 ∧ next ∈ links vertex := by
  unfold CappedSearch.met
  split
  · rename_i room
    simp only [List.mem_reverse, List.mem_map, Prod.mk.injEq, room, true_and]
    constructor
    · rintro ⟨linked, among, rfl, rfl⟩
      exact ⟨rfl, among⟩
    · rintro ⟨rfl, among⟩
      exact ⟨next, among, rfl, rfl⟩
  · rename_i full
    simp [full]

/-- What is within the limit is in reach at the start. -/
theorem CappedSearch.start_inReach {cap : Nat} {root : Vertex} :
    InReach links cap (CappedSearch.start root).waiting (CappedSearch.start root).entered goal ↔
      WithinCap links cap root goal := by
  constructor
  · rintro ⟨vertex, depth, n, among, way, within⟩
    obtain ⟨rfl, rfl⟩ := Prod.mk.inj (List.mem_singleton.mp among)
    exact ⟨n, by omega, way⟩
  · rintro ⟨n, within, way⟩
    exact ⟨root, 0, n, List.mem_singleton_self _, way, by omega⟩

end Ways

section Steps

variable {Vertex : Type} [DecidableEq Vertex] {links : Vertex → List Vertex} {cap : Nat}
  {search : CappedSearch Vertex} {goal : Vertex}

/-- Nothing new comes into reach. -/
theorem CappedSearch.inReach_of_next
    (after : InReach links cap (search.next links cap).waiting (search.next links cap).entered
      goal) :
    InReach links cap search.waiting search.entered goal := by
  unfold CappedSearch.next at after
  split at after
  · exact after
  · rename_i vertex depth rest waits
    split at after
    · obtain ⟨other, below, n, among, way, within⟩ := after
      exact ⟨other, below, n, waits ▸ List.mem_cons_of_mem _ among, way, within⟩
    · rename_i fresh
      obtain ⟨other, below, n, among, way, within⟩ := after
      have way' := way.of_subset (List.subset_append_left _ [vertex])
      rw [waits]
      obtain met | waited := List.mem_append.mp among
      · -- From a vertex that was just met, the way goes back over its link.
        obtain ⟨_, rfl, linked⟩ := CappedSearch.mem_met.mp met
        exact ⟨vertex, depth, n + 1, List.mem_cons_self, .link fresh linked way', by omega⟩
      · exact ⟨other, below, n, List.mem_cons_of_mem _ waited, way', within⟩

/-- What is entered was in reach. -/
theorem CappedSearch.entered_of_next (depths : search.WithinDepth cap)
    (after : goal ∈ (search.next links cap).entered) :
    goal ∈ search.entered ∨ InReach links cap search.waiting search.entered goal := by
  unfold CappedSearch.next at after
  split at after
  · exact .inl after
  · rename_i vertex depth rest waits
    split at after
    · exact .inl after
    · rename_i fresh
      obtain before | now := List.mem_append.mp after
      · exact .inl before
      · obtain rfl := List.mem_singleton.mp now
        have among : (goal, depth) ∈ search.waiting := waits ▸ List.mem_cons_self
        exact .inr ⟨goal, depth, 0, among, .here fresh, depths _ _ among⟩

/-- What was entered stays entered. -/
theorem CappedSearch.entered_next (before : goal ∈ search.entered) :
    goal ∈ (search.next links cap).entered := by
  unfold CappedSearch.next
  split
  · exact before
  · split
    · exact before
    · exact List.mem_append_left _ before

/-- The depths stay within the limit. -/
theorem CappedSearch.WithinDepth.next (depths : search.WithinDepth cap) :
    (search.next links cap).WithinDepth cap := by
  intro vertex depth among
  unfold CappedSearch.next at among
  split at among
  · exact depths _ _ among
  · rename_i first below rest waits
    have old : ∀ {entry}, entry ∈ rest → entry ∈ search.waiting :=
      fun member => waits ▸ List.mem_cons_of_mem _ member
    split at among
    · exact depths _ _ (old among)
    · obtain met | waited := List.mem_append.mp among
      · obtain ⟨room, rfl, _⟩ := CappedSearch.mem_met.mp met
        exact room
      · exact depths _ _ (old waited)

/-- A goal in reach that a step keeps is entered by it or still in reach, and only such a one. -/
theorem CappedSearch.keeps_iff (depths : search.WithinDepth cap) :
    search.Keeps links cap goal ↔
      (InReach links cap search.waiting search.entered goal →
        goal ∈ (search.next links cap).entered ∨
          InReach links cap (search.next links cap).waiting (search.next links cap).entered
            goal) := by
  unfold CappedSearch.Keeps CappedSearch.next
  split
  · rename_i none
    rw [none]
    exact ⟨fun _ reached => .inr reached, fun _ _ _ _ same => by cases same⟩
  · rename_i vertex depth rest waits
    rw [waits]
    split
    · rename_i stale
      -- A vertex that was entered before starts no way.
      constructor
      · rintro _ ⟨other, below, n, among, way, within⟩
        refine .inr ⟨other, below, n, (List.mem_cons.mp among).resolve_left ?_, way, within⟩
        rintro same
        exact way.start_fresh ((Prod.mk.inj same).1 ▸ stale)
      · intro _ vertex' depth' rest' same fresh
        obtain ⟨first, rfl⟩ := List.cons.inj same
        exact absurd ((Prod.mk.inj first).1 ▸ stale) fresh
    · rename_i fresh
      constructor
      · intro keeps reached
        obtain ⟨other, below, n, among, way, within⟩ | ⟨other, below, n, among, way, within⟩ :=
          keeps vertex depth rest rfl fresh reached
        · obtain ⟨rfl, rfl⟩ := Prod.mk.inj (List.mem_singleton.mp among)
          -- The way leaves the entered vertex for the last time over one of its links.
          obtain rfl | around | ⟨next, linked, m, fewer, onward⟩ := way.around other
          · exact .inl (by simp)
          · exact absurd (by simp) around.start_fresh
          · exact .inr ⟨next, below + 1, m, List.mem_append_left _
              (CappedSearch.mem_met.mpr ⟨by omega, rfl, linked⟩), onward, by omega⟩
        · exact .inr ⟨other, below, n, List.mem_append_right _ among, way, within⟩
      · intro keeps vertex' depth' rest' same _ reached
        obtain ⟨first, rfl⟩ := List.cons.inj same
        obtain ⟨rfl, rfl⟩ := Prod.mk.inj first
        obtain now | ⟨other, below, n, among, way, within⟩ := keeps reached
        · obtain before | same := List.mem_append.mp now
          · obtain ⟨_, _, _, _, way, _⟩ := reached
            exact absurd before way.goal_fresh
          · obtain rfl := List.mem_singleton.mp same
            exact .inl ⟨goal, depth, 0, List.mem_singleton_self _, .here fresh,
              depths _ _ (waits ▸ List.mem_cons_self)⟩
        · obtain met | waited := List.mem_append.mp among
          · obtain ⟨_, rfl, linked⟩ := CappedSearch.mem_met.mp met
            exact .inl ⟨vertex, depth, n + 1, List.mem_singleton_self _,
              .link fresh linked (way.of_subset (List.subset_append_left _ _)), by omega⟩
          · exact .inr ⟨other, below, n, waited, way, within⟩

end Steps

section Runs

variable {Vertex : Type} [DecidableEq Vertex] {links : Vertex → List Vertex} {cap : Nat}
  {root goal : Vertex}

/-- The search after some vertices. -/
def CappedSearch.after (links : Vertex → List Vertex) (cap : Nat) (root : Vertex) :
    Nat → CappedSearch Vertex
  | 0 => CappedSearch.start root
  | n + 1 => (CappedSearch.after links cap root n).next links cap

/-- The depths are within the limit all the time. -/
theorem CappedSearch.after_withinDepth (n : Nat) :
    (CappedSearch.after links cap root n).WithinDepth cap := by
  induction n with
  | zero =>
    intro vertex depth among
    obtain ⟨rfl, rfl⟩ := Prod.mk.inj (List.mem_singleton.mp among)
    exact Nat.zero_le cap
  | succ n ih => exact ih.next

/-- What is in reach or entered is within the limit. -/
theorem CappedSearch.after_within (n : Nat) :
    (InReach links cap (CappedSearch.after links cap root n).waiting
        (CappedSearch.after links cap root n).entered goal ∨
      goal ∈ (CappedSearch.after links cap root n).entered) → WithinCap links cap root goal := by
  induction n with
  | zero =>
    rintro (reached | among)
    · exact CappedSearch.start_inReach.mp reached
    · cases among
  | succ n ih =>
    rintro (reached | among)
    · exact ih (.inl (CappedSearch.inReach_of_next reached))
    · exact ih (CappedSearch.entered_of_next (CappedSearch.after_withinDepth n) among).symm

/-- What is entered later is entered or in reach before. -/
theorem CappedSearch.after_entered_of_later (n more : Nat)
    (later : goal ∈ (CappedSearch.after links cap root (n + more)).entered) :
    goal ∈ (CappedSearch.after links cap root n).entered ∨
      InReach links cap (CappedSearch.after links cap root n).waiting
        (CappedSearch.after links cap root n).entered goal := by
  -- The induction goes back from the later state, one vertex at a time.
  induction more generalizing n with
  | zero => exact .inl later
  | succ more ih =>
    have next := ih (n + 1) (by rwa [Nat.add_right_comm])
    obtain entered | reached := next
    · exact CappedSearch.entered_of_next (CappedSearch.after_withinDepth n) entered
    · exact .inr (CappedSearch.inReach_of_next reached)

/-- A search that has ended entered every wanted vertex within the limit exactly if each of its
steps kept every wanted one that was in reach. -/
theorem CappedSearch.entered_iff_keeps {wanted : Vertex → Prop} {n : Nat}
    (done : (CappedSearch.after links cap root n).waiting = []) :
    (∀ goal, wanted goal → WithinCap links cap root goal →
      goal ∈ (CappedSearch.after links cap root n).entered) ↔
    ∀ k < n, ∀ goal, wanted goal → (CappedSearch.after links cap root k).Keeps links cap goal := by
  constructor
  · intro covers k before goal want
    refine (CappedSearch.keeps_iff (CappedSearch.after_withinDepth k)).mpr fun reached => ?_
    have enteredLast := covers goal want (CappedSearch.after_within k (.inl reached))
    have split : n = k + 1 + (n - (k + 1)) := by omega
    rw [split] at enteredLast
    exact CappedSearch.after_entered_of_later (k + 1) _ enteredLast
  · intro keeps goal want within
    have along : ∀ k ≤ n, goal ∈ (CappedSearch.after links cap root k).entered ∨
        InReach links cap (CappedSearch.after links cap root k).waiting
          (CappedSearch.after links cap root k).entered goal := by
      intro k
      induction k with
      | zero => exact fun _ => .inr (CappedSearch.start_inReach.mpr within)
      | succ k ih =>
        intro before
        obtain entered | reached := ih (by omega)
        · exact .inl (CappedSearch.entered_next entered)
        · exact (CappedSearch.keeps_iff (CappedSearch.after_withinDepth k)).mp
            (keeps k (by omega) goal want) reached
    obtain entered | ⟨_, _, _, among, _⟩ := along n le_rfl
    · exact entered
    · rw [done] at among
      cases among

end Runs

end C64Stream
