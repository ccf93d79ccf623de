/-
# Calls in the operands of a declaration

A declaration's names are known after it, not in its own operands: a call there
has the callee that it would have if the names were blank.  This holds of every
form but one.  A switch over types opens its inside with its alias, and its
initial statement and its subject lie inside; there a call of the alias is lost,
and no other call is.

Key definitions: `calleeAt`.
Key theorem: `calleeAt_operand`.
-/
import GoComplexity.Proofs.Blanking

namespace GoComplexity

variable (path : String) (parent : Form) (parameters : List String) (next : Nat)

/-- The callee that the conversion of a body gives to the node at an address. -/
def calleeAt (body : Tree) (p : List Nat) : Option String :=
  ((convert path parent body ⟨next, [parameters]⟩).1.at? p).bind Node.callee

theorem calleeAt_eq_some_iff {body c : Tree} {p : List Nat} (h : body.at? p = some c) (x : String) :
    calleeAt path parent parameters next body p = some x ↔
      c.form = .call ∧ ∃ f, c.childByField? "function" = some f ∧ f.kind = "identifier" ∧
        f.text = x ∧ ¬ (x ∈ parameters ∨ x ∈ body.seenAt p) := by
  obtain ⟨n, hn, hcallee⟩ := callee_convert_iff path parent h
    (s := ⟨next, [parameters]⟩) (List.cons_ne_nil _ _)
  rw [calleeAt, hn, Option.bind_some, hcallee, isLocal_singleton]

variable {body d o c : Tree} {q p : List Nat} {i : Nat}

/-- A call in an operand of a declaration has the callee that it has once the
declaration is blank, unless the declaration opens its inside with that name. -/
theorem calleeAt_eq_some_iff_blank (h : body.Grammatical) (hd : body.at? q = some d)
    (ho : d.HasOperand i o) (hc : o.at? p = some c) (x : String) :
    calleeAt path parent parameters next body (q ++ i :: p) = some x ↔
      calleeAt path parent parameters next (Tree.blankAt q body) (q ++ i :: p) = some x ∧
        x ∉ (openingNames d).filter isBindable := by
  have hregular := (h.of_at? hd).regular
  have hat : body.at? (q ++ i :: p) = some c := by
    rw [Tree.at?_append, hd, Option.bind_some, Tree.at?_cons, ho.at_place, Option.bind_some, hc]
  have hat' : (Tree.blankAt q body).at? (q ++ i :: p) = some c := by
    rw [Tree.at?_blankAt, hd, Option.bind_some, Tree.at?_cons,
      (Tree.kept_blankNames hregular ho).1, Option.bind_some, hc]
  have hseen : x ∈ body.seenAt (q ++ i :: p) ↔
      x ∈ (Tree.blankAt q body).seenAt (q ++ i :: p) ∨
        x ∈ (openingNames d).filter isBindable := by
    rw [Tree.seenAt_append _ hd, Tree.seenAt_blankAt _ h hd, List.mem_append, List.mem_append,
      Tree.seenAt_blankNames hregular ho]
    tauto
  rw [calleeAt_eq_some_iff path parent parameters next hat,
    calleeAt_eq_some_iff path parent parameters next hat', hseen]
  constructor
  · rintro ⟨hform, f, hfun, hk, hx, hn⟩
    exact ⟨⟨hform, f, hfun, hk, hx, fun hn' => hn (by tauto)⟩, fun hn' => hn (by tauto)⟩
  · rintro ⟨⟨hform, f, hfun, hk, hx, hn⟩, hn'⟩
    exact ⟨hform, f, hfun, hk, hx, by tauto⟩

/-- **A declaration is unknown in its own operands**, with one exception: a switch
over types is as good as blank for just those calls that do not name its alias. -/
theorem calleeAt_operand (h : body.Grammatical) (hd : body.at? q = some d)
    (ho : d.HasOperand i o) (hc : o.at? p = some c) :
    (d.form ≠ .typeSwitch →
      calleeAt path parent parameters next body (q ++ i :: p) =
        calleeAt path parent parameters next (Tree.blankAt q body) (q ++ i :: p)) ∧
    (d.form = .typeSwitch →
      (calleeAt path parent parameters next body (q ++ i :: p) =
          calleeAt path parent parameters next (Tree.blankAt q body) (q ++ i :: p) ↔
        ∀ x ∈ identifiersOf d "alias", isBindable x = true →
          calleeAt path parent parameters next (Tree.blankAt q body) (q ++ i :: p) ≠ some x)) := by
  have hblank := calleeAt_eq_some_iff_blank path parent parameters next h hd ho hc
  constructor
  · intro hform
    refine Option.ext fun x => ?_
    rw [hblank, ho.openingNames_eq_nil hform]
    exact and_iff_left List.not_mem_nil
  · intro hform
    have hopen : openingNames d = identifiersOf d "alias" := by rw [openingNames, hform]
    constructor
    · intro he x hx hbind hcallee
      refine ((hblank x).mp (he.trans hcallee)).2 ?_
      rw [hopen]
      exact List.mem_filter.mpr ⟨hx, hbind⟩
    · intro hne
      refine Option.ext fun x => ?_
      rw [hblank]
      refine and_iff_left_of_imp fun hcallee hx => ?_
      rw [hopen] at hx
      obtain ⟨hx, hbind⟩ := List.mem_filter.mp hx
      exact hne x hx hbind hcallee

/-- The block `f := f()`. -/
def declaredByCall : Tree :=
  .node { kind := "block" }
    [.node { kind := "short_var_declaration" }
      [Tree.inField "expression_list" "left" [Tree.ofName "f"],
        .node { kind := ":=", isNamed := false } [],
        Tree.inField "expression_list" "right" [Tree.callOf none "f"]]]

/-- The block `switch f := f().(type) {}`. -/
def switchedOverCall : Tree :=
  .node { kind := "block" }
    [.node { kind := "type_switch_statement" }
      [Tree.inField "expression_list" "alias" [Tree.ofName "f"],
        .node { kind := ":=", isNamed := false } [],
        Tree.callOf (some "value") "f"]]

/-- The call in the declaration has its callee, and the one in the switch does
not have that of the blank switch. -/
theorem calleeAt_own_operand :
    calleeAt "" .other [] 0 declaredByCall [0, 1, 0] = some "f" ∧
      calleeAt "" .other [] 0 switchedOverCall [0, 1] ≠
        calleeAt "" .other [] 0 (Tree.blankAt [0] switchedOverCall) [0, 1] := by
  have hd : declaredByCall.Grammatical := by decide
  have hs : switchedOverCall.Grammatical := by decide
  have hdeclared := calleeAt_operand "" .other [] 0 hd (q := [0]) (i := 1) (p := [0]) rfl
    ⟨rfl, "right", by decide, rfl⟩ rfl
  have hswitched := calleeAt_operand "" .other [] 0 hs (q := [0]) (i := 1) (p := []) rfl
    ⟨rfl, "value", by decide, rfl⟩ rfl
  refine ⟨(hdeclared.1 (by decide)).trans (by decide), fun he => ?_⟩
  exact (hswitched.2 rfl).mp he "f" (by decide) (by decide) (by decide)

/-- A switch over types hides a function from the call that the switch is over. -/
theorem calleeAt_switchedOverCall :
    switchedOverCall.Grammatical ∧ calleeAt "" .other [] 0 switchedOverCall [0, 1] = none ∧
      calleeAt "" .other [] 0 (Tree.blankAt [0] switchedOverCall) [0, 1] = some "f" := by
  decide

end GoComplexity
