import Mathlib

/-!
# Merkle trees over lists

The levels of a tree are lists of nodes.  The next level combines neighbours two by two,
and an odd node out with itself.  Such a root does not determine the leaves by itself: a
list and the list with its last leaf repeated share their root, and a combined node may
pose as a leaf.  It does for lists without repetitions, none of whose leaves is a
combined node of the other tree.
-/

namespace AegisLedger.Support.Merkle

variable {α : Type}

/-- Lists with the same image under `f` have the same image under whatever `f` determines. -/
theorem map_eq_map_of {β γ : Type} {f : α → β} {g : α → γ} {xs ys : List α}
    (h : xs.map f = ys.map f) (hstep : ∀ a ∈ xs, ∀ b ∈ ys, f a = f b → g a = g b) :
    xs.map g = ys.map g := by
  induction xs generalizing ys with
  | nil =>
    rw [List.map_nil, eq_comm, List.map_eq_nil_iff] at h
    rw [h]
  | cons a xs ih =>
    cases ys with
    | nil => cases h
    | cons b ys =>
      rw [List.map_cons, List.map_cons, List.cons.injEq] at h
      rw [List.map_cons, List.map_cons, hstep a List.mem_cons_self b List.mem_cons_self h.1,
        ih h.2 fun c hc d hd =>
          hstep c (List.mem_cons_of_mem a hc) d (List.mem_cons_of_mem b hd)]

/-- Neighbours two by two; an odd node out is its own neighbour. -/
def neighbours : List α → List (α × α)
  | [] => []
  | [a] => [(a, a)]
  | a :: b :: nodes => (a, b) :: neighbours nodes

theorem length_neighbours (nodes : List α) :
    (neighbours nodes).length = (nodes.length + 1) / 2 := by
  induction nodes using neighbours.induct with
  | case1 => simp [neighbours]
  | case2 a => simp [neighbours]
  | case3 a b nodes ih =>
    simp only [neighbours, List.length_cons, ih]
    omega

theorem fst_neighbours_sublist (nodes : List α) :
    ((neighbours nodes).map Prod.fst).Sublist nodes := by
  induction nodes using neighbours.induct with
  | case1 => exact List.Sublist.slnil
  | case2 a => exact List.Sublist.refl [a]
  | case3 a b nodes ih => exact (ih.cons b).cons_cons a

theorem mem_of_mem_neighbours {nodes : List α} {pair : α × α} (h : pair ∈ neighbours nodes) :
    pair.1 ∈ nodes ∧ pair.2 ∈ nodes := by
  induction nodes using neighbours.induct with
  | case1 => cases h
  | case2 a =>
    obtain rfl := List.mem_singleton.mp h
    exact ⟨List.mem_cons_self, List.mem_cons_self⟩
  | case3 a b nodes ih =>
    rcases List.mem_cons.mp h with rfl | hrest
    · simp
    · obtain ⟨hleft, hright⟩ := ih hrest
      simp [hleft, hright]

theorem neighbours_inj {xs ys : List α} (hxs : xs.Nodup) (hys : ys.Nodup)
    (h : neighbours xs = neighbours ys) : xs = ys := by
  induction xs using neighbours.induct generalizing ys with
  | case1 =>
    rcases ys with _ | ⟨c, _ | ⟨d, ys⟩⟩
    · rfl
    · cases h
    · cases h
  | case2 a =>
    rcases ys with _ | ⟨c, _ | ⟨d, ys⟩⟩
    · cases h
    · simp only [neighbours, List.cons.injEq, Prod.mk.injEq] at h
      rw [h.1.1]
    · simp only [neighbours, List.cons.injEq, Prod.mk.injEq] at h
      obtain ⟨⟨rfl, rfl⟩, _⟩ := h
      simp at hys
  | case3 a b xs ih =>
    rcases ys with _ | ⟨c, _ | ⟨d, ys⟩⟩
    · cases h
    · simp only [neighbours, List.cons.injEq, Prod.mk.injEq] at h
      obtain ⟨⟨rfl, rfl⟩, _⟩ := h
      simp at hxs
    · simp only [neighbours, List.cons.injEq, Prod.mk.injEq] at h
      obtain ⟨⟨rfl, rfl⟩, hrest⟩ := h
      rw [ih (List.nodup_cons.mp (List.nodup_cons.mp hxs).2).2
        (List.nodup_cons.mp (List.nodup_cons.mp hys).2).2 hrest]

section Levels

variable (combine : α → α → α)

def nextLevel (nodes : List α) : List α :=
  (neighbours nodes).map fun pair => combine pair.1 pair.2

theorem length_nextLevel (nodes : List α) :
    (nextLevel combine nodes).length = (nodes.length + 1) / 2 := by
  rw [nextLevel, List.length_map, length_neighbours]

/-- Combine level after level while more than one node is left. -/
def climb : Nat → List α → List α
  | 0, nodes => nodes
  | fuel + 1, nodes => if 1 < nodes.length then climb fuel (nextLevel combine nodes) else nodes

/-- The lists met on the way from the leaves to the root. -/
inductive Level (leaves : List α) : List α → Prop
  | leaves : Level leaves leaves
  | next {nodes : List α} (hlevel : Level leaves nodes) (hmany : 1 < nodes.length) :
      Level leaves (nextLevel combine nodes)

variable {nodes : List α}

theorem length_climb {fuel : Nat} (hne : nodes ≠ []) (hfuel : nodes.length ≤ fuel + 1) :
    (climb combine fuel nodes).length = 1 := by
  induction fuel generalizing nodes with
  | zero =>
    have hpos := List.length_pos_iff.mpr hne
    rw [climb]
    omega
  | succ fuel ih =>
    have hpos := List.length_pos_iff.mpr hne
    have hlength := length_nextLevel combine nodes
    rw [climb]
    split_ifs with hmany
    · apply ih
      · rw [← List.length_pos_iff]
        omega
      · omega
    · omega

variable {leaves : List α}

theorem level_climb (hlevel : Level combine leaves nodes) (fuel : Nat) :
    Level combine leaves (climb combine fuel nodes) := by
  induction fuel generalizing nodes with
  | zero => exact hlevel
  | succ fuel ih =>
    rw [climb]
    split_ifs with hmany
    · exact ih (hlevel.next hmany)
    · exact hlevel

/-- A collection that holds the leaves and the next level of its members holds every
level. -/
theorem Level.mem_of_closed (hlevel : Level combine leaves nodes) {levels : List (List α)}
    (hleaves : leaves ∈ levels)
    (hclosed : ∀ nodes ∈ levels, 1 < nodes.length → nextLevel combine nodes ∈ levels) :
    nodes ∈ levels := by
  induction hlevel with
  | leaves => exact hleaves
  | next _ hmany ih => exact hclosed _ ih hmany

/-- What holds of the leaves and of every combined node holds on every level. -/
theorem Level.forall_mem (hlevel : Level combine leaves nodes) {p : α → Prop}
    (hleaves : ∀ leaf ∈ leaves, p leaf) (hcombine : ∀ a b, p (combine a b)) :
    ∀ node ∈ nodes, p node := by
  cases hlevel with
  | leaves => exact hleaves
  | next hlevel hmany =>
    intro node hnode
    obtain ⟨pair, _, rfl⟩ := List.mem_map.mp hnode
    exact hcombine pair.1 pair.2

/-- The pairs of nodes combined on the way to the root. -/
def Combined (leaves : List α) (pair : α × α) : Prop :=
  ∃ nodes, Level combine leaves nodes ∧ 1 < nodes.length ∧ pair ∈ neighbours nodes

variable {combine}

/-! ## What the root determines -/

section Root

variable {xs ys : List α}

variable {nodes : List α}

theorem nodup_nextLevel (hnodup : nodes.Nodup)
    (hinj : Set.InjOn (fun pair => combine pair.1 pair.2) {pair | pair ∈ neighbours nodes}) :
    (nextLevel combine nodes).Nodup := by
  have hpairs : (neighbours nodes).Nodup :=
    List.Nodup.of_map Prod.fst (hnodup.sublist (fst_neighbours_sublist nodes))
  exact hpairs.map_on fun p hp q hq heq => hinj hp hq heq

theorem Level.nodup (hlevel : Level combine xs nodes) (hxs : xs.Nodup)
    (hinj : Set.InjOn (fun pair => combine pair.1 pair.2) {pair | Combined combine xs pair}) :
    nodes.Nodup := by
  induction hlevel with
  | leaves => exact hxs
  | @next nodes hlevel hmany ih =>
    apply nodup_nextLevel ih
    apply hinj.mono
    intro pair hpair
    exact ⟨nodes, hlevel, hmany, hpair⟩

/-- Two trees that meet in one level go down together, until one of them reaches its
leaves. -/
theorem Level.meet (hxs : xs.Nodup) (hys : ys.Nodup)
    (hinj : Set.InjOn (fun pair => combine pair.1 pair.2)
      {pair | Combined combine xs pair ∨ Combined combine ys pair}) (hx : Level combine xs nodes)
    (hy : Level combine ys nodes) : Level combine ys xs ∨ Level combine xs ys := by
  induction hx with
  | leaves => exact Or.inl hy
  | @next nodes hx hmany ih =>
    generalize htop : nextLevel combine nodes = top at hy
    cases hy with
    | leaves =>
      rw [← htop]
      exact Or.inr (hx.next hmany)
    | @next others hy hothers =>
      have hpairs : neighbours nodes = neighbours others := by
        rw [← List.map_id (neighbours nodes), ← List.map_id (neighbours others)]
        apply map_eq_map_of htop
        intro p hp q hq heq
        exact hinj (Or.inl ⟨nodes, hx, hmany, hp⟩) (Or.inr ⟨others, hy, hothers, hq⟩) heq
      have hnodes := hx.nodup hxs (hinj.mono fun pair => Or.inl)
      have hothers := hy.nodup hys (hinj.mono fun pair => Or.inr)
      apply ih
      rw [neighbours_inj hnodes hothers hpairs]
      exact hy

/-- A list that is a level of another tree is that tree's leaves, or combined nodes. -/
theorem Level.eq_or_combined (hlevel : Level combine ys nodes) :
    nodes = ys ∨ ∀ node ∈ nodes, ∃ pair, Combined combine ys pair ∧
      node = combine pair.1 pair.2 := by
  cases hlevel with
  | leaves => exact Or.inl rfl
  | @next below hbelow hmany =>
    right
    intro node hnode
    obtain ⟨pair, hpair, rfl⟩ := List.mem_map.mp hnode
    exact ⟨pair, ⟨below, hbelow, hmany, hpair⟩, rfl⟩

theorem eq_of_meet (hxs : xs.Nodup) (hys : ys.Nodup) (hxne : xs ≠ []) (hyne : ys ≠ [])
    (hinj : Set.InjOn (fun pair => combine pair.1 pair.2)
      {pair | Combined combine xs pair ∨ Combined combine ys pair})
    (hleafx : ∀ leaf ∈ xs, ∀ pair, Combined combine ys pair → leaf ≠ combine pair.1 pair.2)
    (hleafy : ∀ leaf ∈ ys, ∀ pair, Combined combine xs pair → leaf ≠ combine pair.1 pair.2)
    (hx : Level combine xs nodes) (hy : Level combine ys nodes) : xs = ys := by
  rcases Level.meet hxs hys hinj hx hy with hbelow | hbelow
  · rcases hbelow.eq_or_combined with heq | hcombined
    · exact heq
    · obtain ⟨leaf, hleaf⟩ := List.exists_mem_of_ne_nil xs hxne
      obtain ⟨pair, hpair, heq⟩ := hcombined leaf hleaf
      exact absurd heq (hleafx leaf hleaf pair hpair)
  · rcases hbelow.eq_or_combined with heq | hcombined
    · exact heq.symm
    · obtain ⟨leaf, hleaf⟩ := List.exists_mem_of_ne_nil ys hyne
      obtain ⟨pair, hpair, heq⟩ := hcombined leaf hleaf
      exact absurd heq (hleafy leaf hleaf pair hpair)

end Root

end Levels

end AegisLedger.Support.Merkle
