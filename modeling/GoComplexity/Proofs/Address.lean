/-
# Addresses in a tree

An address leads from the root of a tree down to a node below it: it lists the
places, among the children that are carried over, at which to go on.  The
addresses above one are those that begin it, and the order of the addresses as
lists is the order in which a conversion comes to their nodes.  A conversion
keeps addresses.

Key definitions: `Tree.at?`, `Node.at?`, `Tree.addresses`.
Key theorems: `Tree.mem_addresses_iff`, `Tree.addresses_pairwise_lt`,
`at?_convert_cons`.
-/
import GoComplexity.Proofs.Conversion
import Mathlib.Data.List.Basic

namespace GoComplexity

namespace Tree

/-- The subtree at an address. -/
def at? : Tree → List Nat → Option Tree
  | t, [] => some t
  | t, i :: p =>
    match t.kept[i]? with
    | some c => c.at? p
    | none => none

theorem at?_cons (t : Tree) (i : Nat) (p : List Nat) :
    t.at? (i :: p) = t.kept[i]?.bind fun c => c.at? p := by
  rw [at?]
  cases t.kept[i]? <;> rfl

theorem at?_append : ∀ (p q : List Nat) (t : Tree), t.at? (p ++ q) = (t.at? p).bind fun c => c.at? q
  | [], _, _ => rfl
  | i :: p, q, t => by
    rw [List.cons_append, at?_cons, at?_cons]
    cases t.kept[i]? with
    | none => rfl
    | some c => exact at?_append p q c

/-- An address goes on into a child that is carried over. -/
theorem exists_of_at?_cons {t c : Tree} {i : Nat} {p : List Nat} (h : t.at? (i :: p) = some c) :
    ∃ d, t.kept[i]? = some d ∧ d.at? p = some c := by
  rw [at?_cons] at h
  exact Option.bind_eq_some_iff.mp h

mutual

/-- The addresses in a tree, in the order in which a conversion comes to them. -/
def addresses : Tree → List (List Nat)
  | .node _ cs => [] :: addressesFrom 0 cs

/-- The addresses in the trees of a list, whose first place is given. -/
def addressesFrom : Nat → List Tree → List (List Nat)
  | _, [] => []
  | i, c :: cs =>
    if c.isKept then c.addresses.map (i :: ·) ++ addressesFrom (i + 1) cs else addressesFrom i cs

end

theorem addresses_eq (t : Tree) : t.addresses = [] :: addressesFrom 0 t.kept := by
  have hkept : ∀ (cs : List Tree) (i : Nat),
      addressesFrom i (cs.filter isKept) = addressesFrom i cs := by
    intro cs
    induction cs with
    | nil => exact fun _ => rfl
    | cons c cs ih =>
      intro i
      by_cases hc : c.isKept = true
      · rw [List.filter_cons_of_pos hc, addressesFrom, addressesFrom, if_pos hc, if_pos hc, ih]
      · rw [List.filter_cons_of_neg hc, addressesFrom, if_neg hc, ih]
  cases t with
  | node tag cs => rw [addresses, kept, hkept]; rfl

theorem addressesFrom_cons {c : Tree} (hc : c.isKept = true) (i : Nat) (cs : List Tree) :
    addressesFrom i (c :: cs) = c.addresses.map (i :: ·) ++ addressesFrom (i + 1) cs := by
  rw [addressesFrom, if_pos hc]

theorem mem_addressesFrom_iff (p : List Nat) : ∀ (cs : List Tree) (i : Nat),
    (∀ c ∈ cs, c.isKept = true) →
    (p ∈ addressesFrom i cs ↔ ∃ k c q, cs[k]? = some c ∧ q ∈ c.addresses ∧ p = (i + k) :: q)
  | [], _, _ => by simp [addressesFrom]
  | c :: cs, i, h => by
    rw [addressesFrom_cons (h c List.mem_cons_self), List.mem_append, List.mem_map,
      mem_addressesFrom_iff p cs (i + 1) fun d hd => h d (List.mem_cons_of_mem _ hd)]
    constructor
    · rintro (⟨q, hq, rfl⟩ | ⟨k, d, q, hd, hq, rfl⟩)
      · exact ⟨0, c, q, rfl, hq, rfl⟩
      · exact ⟨k + 1, d, q, hd, hq, by rw [Nat.add_assoc, Nat.add_comm 1]⟩
    · rintro ⟨k, d, q, hd, hq, rfl⟩
      cases k with
      | zero => exact Or.inl ⟨q, Option.some.inj hd ▸ hq, rfl⟩
      | succ k => exact Or.inr ⟨k, d, q, hd, hq, by rw [Nat.add_assoc, Nat.add_comm 1]⟩

/-- The addresses of a tree are those at which there is a node. -/
theorem mem_addresses_iff (t : Tree) (p : List Nat) : p ∈ t.addresses ↔ (t.at? p).isSome := by
  induction t using keptInduction generalizing p with
  | node t ih =>
    rw [addresses_eq, List.mem_cons, mem_addressesFrom_iff p t.kept 0 fun c => isKept_of_mem_kept]
    cases p with
    | nil => simp [at?]
    | cons i p =>
      rw [at?_cons]
      constructor
      · rintro (h | ⟨k, c, q, hc, hq, he⟩)
        · exact absurd h (List.cons_ne_nil i p)
        · obtain ⟨rfl, rfl⟩ := List.cons.inj he
          rw [Nat.zero_add, hc, Option.bind_some]
          exact (ih c (List.mem_of_getElem? hc) p).mp hq
      · intro h
        cases hc : t.kept[i]? with
        | none => rw [hc] at h; exact absurd h (by simp)
        | some c =>
          rw [hc, Option.bind_some] at h
          exact Or.inr ⟨i, c, p, hc, (ih c (List.mem_of_getElem? hc) p).mpr h, by rw [Nat.zero_add]⟩

theorem addressesFrom_pairwise_lt : ∀ (cs : List Tree) (i : Nat),
    (∀ c ∈ cs, c.isKept = true ∧ c.addresses.Pairwise (· < ·)) →
    (addressesFrom i cs).Pairwise (· < ·)
  | [], _, _ => by simp [addressesFrom]
  | c :: cs, i, h => by
    have htail := fun d hd => h d (List.mem_cons_of_mem c hd)
    obtain ⟨hc, hp⟩ := h c List.mem_cons_self
    rw [addressesFrom_cons hc, List.pairwise_append]
    refine ⟨?_, addressesFrom_pairwise_lt cs (i + 1) htail, ?_⟩
    · rw [List.pairwise_map]
      exact hp.imp fun hlt => List.cons_lt_cons_iff.mpr (Or.inr ⟨rfl, hlt⟩)
    · intro p hp q hq
      obtain ⟨p', -, rfl⟩ := List.mem_map.mp hp
      obtain ⟨k, d, q', -, -, rfl⟩ :=
        (mem_addressesFrom_iff q cs (i + 1) fun d hd => (htail d hd).1).mp hq
      exact List.cons_lt_cons_iff.mpr (Or.inl (by omega))

/-- **The order of addresses is the order of the nodes.** -/
theorem addresses_pairwise_lt (t : Tree) : t.addresses.Pairwise (· < ·) := by
  induction t using keptInduction with
  | node t ih =>
    rw [addresses_eq, List.pairwise_cons]
    refine ⟨fun p hp => ?_, addressesFrom_pairwise_lt t.kept 0
      fun c hc => ⟨isKept_of_mem_kept hc, ih c hc⟩⟩
    obtain ⟨k, c, q, -, -, rfl⟩ :=
      (mem_addressesFrom_iff p t.kept 0 fun c => isKept_of_mem_kept).mp hp
    exact List.nil_lt_cons _ _

end Tree

/-- The node at an address. -/
def Node.at? : Node → List Nat → Option Node
  | n, [] => some n
  | n, i :: p =>
    match n.children[i]? with
    | some c => c.at? p
    | none => none

theorem Node.at?_cons (n : Node) (i : Nat) (p : List Nat) :
    n.at? (i :: p) = n.children[i]?.bind fun c => c.at? p := by
  rw [at?]
  cases n.children[i]? <;> rfl

variable (path : String) (parent : Form)

/-- The nodes of a list are converted one after the other. -/
theorem getElem?_convertAll : ∀ (cs : List Tree) (i : Nat) (s : Conversion),
    (∀ c ∈ cs, c.isKept = true) →
    (convertAll path parent cs s).1[i]? =
      cs[i]?.map fun c => (convert path parent c (convertAll path parent (cs.take i) s).2).1
  | [], i, s, _ => by simp [convertAll]
  | c :: cs, i, s, h => by
    have hc := h c List.mem_cons_self
    rw [convertAll_cons path parent hc]
    cases i with
    | zero => simp [convertAll]
    | succ i =>
      rw [List.getElem?_cons_succ, List.getElem?_cons_succ, List.take_succ_cons,
        convertAll_cons path parent hc,
        getElem?_convertAll cs i _ fun d hd => h d (List.mem_cons_of_mem _ hd)]

/-- The state in which the child at a place is converted. -/
def Conversion.before (s : Conversion) (path : String) (t : Tree) (i : Nat) : Conversion :=
  (convertAll path t.form (t.kept.take i) (s.inside t)).2

/-- A conversion keeps addresses. -/
theorem at?_convert_cons (t : Tree) (s : Conversion) (i : Nat) (p : List Nat) :
    (convert path parent t s).1.at? (i :: p) =
      t.kept[i]?.bind fun c => (convert path t.form c (s.before path t i)).1.at? p := by
  rw [Node.at?_cons, children_convert, convertKept,
    getElem?_convertAll path t.form t.kept i (s.inside t) fun c => Tree.isKept_of_mem_kept,
    Option.bind_map]
  rfl

end GoComplexity
