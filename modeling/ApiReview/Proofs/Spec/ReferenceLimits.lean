import ApiReview.Proofs.Spec.EscapedReferences

/-! Chains of references within a limit. A chain is followed to its end if that lies
closer than the limit, and given up if it does not, whether it is longer, leads in a
ring or leads nowhere. The one failure is a position of too many digits on the way. -/

set_option autoImplicit false

namespace ApiReview

open ApiReview.Text

variable {spec node next last target : Node} {limit more count : Nat} {reference : String}
  {fault : Fault}

/-! ## Chains -/

/-- A node is reached from another one by following references a number of times. -/
inductive Reaches (spec : Node) : Nat → Node → Node → Prop
  | here (node : Node) : Reaches spec 0 node node
  | step {count : Nat} {node next target : Node} {reference : String} :
      node.get? "$ref" = some (.str reference) → follow? spec reference = .ok (some next) →
      Reaches spec count next target → Reaches spec (count + 1) node target

/-- A chain of references comes to its end in fewer steps than the limit. -/
def EndsAt (spec : Node) (limit : Nat) (node target : Node) : Prop :=
  target.get? "$ref" = none ∧ ∃ count < limit, Reaches spec count node target

/-- A chain of references comes in fewer steps than the limit to a reference with a position of
too many digits. -/
def OverrunsWithin (spec : Node) (limit : Nat) (node : Node) : Prop :=
  ∃ count < limit, ∃ last reference, Reaches spec count node last ∧
    last.get? "$ref" = some (.str reference) ∧ spec.IsOverrunBy reference

theorem Reaches.further (reaches : Reaches spec count node last)
    (held : last.get? "$ref" = some (.str reference))
    (followed : follow? spec reference = .ok (some next)) :
    Reaches spec (count + 1) node next := by
  induction reaches with
  | here node => exact .step held followed (.here next)
  | step first led _ ih => exact .step first led (ih held)

/-- A chain that comes back to its start goes on from everything that it reaches. -/
theorem Reaches.goes_on {steps : Nat} (reaches : Reaches spec count node last)
    (ring : Reaches spec (steps + 1) node node) :
    ∃ reference next, last.get? "$ref" = some (.str reference) ∧
      follow? spec reference = .ok (some next) := by
  induction reaches with
  | here node =>
      cases ring with
      | step held followed _ => exact ⟨_, _, held, followed⟩
  | step held followed _ ih =>
      cases ring with
      | step sameHeld sameFollowed behind =>
          cases held.symm.trans sameHeld
          cases followed.symm.trans sameFollowed
          exact ih (behind.further held followed)

/-! ## Within a limit -/

theorem resolve?_of_reaches (reaches : Reaches spec count node target)
    (ends : target.get? "$ref" = none) (inside : count < limit) :
    resolve? spec limit node = .ok (some target) := by
  induction reaches generalizing limit with
  | here node =>
      cases limit with
      | zero => omega
      | succ limit => simp only [resolve?, ends]
  | step held followed _ ih =>
      cases limit with
      | zero => omega
      | succ limit =>
          have later := ih ends (show _ < limit by omega)
          simp only [resolve?, held, followed, bind, Except.bind, later]

theorem resolve?_of_overrun (reaches : Reaches spec count node last)
    (held : last.get? "$ref" = some (.str reference))
    (stopped : follow? spec reference = .error fault) (inside : count < limit) :
    resolve? spec limit node = .error fault := by
  induction reaches generalizing limit with
  | here node =>
      cases limit with
      | zero => omega
      | succ limit => simp only [resolve?, held, stopped, bind, Except.bind]
  | step first followed _ ih =>
      cases limit with
      | zero => omega
      | succ limit =>
          have later := ih held (show _ < limit by omega)
          simp only [resolve?, first, followed, bind, Except.bind, later]

theorem endsAt_of_resolve? (resolved : resolve? spec limit node = .ok (some target)) :
    EndsAt spec limit node target := by
  induction limit generalizing node with
  | zero => cases resolved
  | succ limit ih =>
      rw [resolve?] at resolved
      split at resolved
      · rename_i free
        cases resolved
        exact ⟨free, 0, Nat.succ_pos limit, .here _⟩
      · rename_i reference held
        obtain ⟨next?, followed, resolved⟩ := bind_ok resolved
        cases next? with
        | none => cases resolved
        | some next =>
            obtain ⟨ends, count, inside, reaches⟩ := ih resolved
            exact ⟨ends, count + 1, Nat.succ_lt_succ inside, .step held followed reaches⟩
      · cases resolved

theorem reaches_of_resolve?_error (failed : resolve? spec limit node = .error fault) :
    ∃ count < limit, ∃ last reference, Reaches spec count node last ∧
      last.get? "$ref" = some (.str reference) ∧ follow? spec reference = .error fault := by
  induction limit generalizing node with
  | zero => cases failed
  | succ limit ih =>
      rw [resolve?] at failed
      split at failed
      · cases failed
      · rename_i reference held
        rcases bind_eq_error_iff.mp failed with stopped | ⟨next?, followed, failed⟩
        · exact ⟨0, Nat.succ_pos limit, node, reference, .here node, held, stopped⟩
        · cases next? with
          | none => cases failed
          | some next =>
              obtain ⟨count, inside, last, text, reaches, further, stopped⟩ := ih failed
              exact ⟨count + 1, Nat.succ_lt_succ inside, last, text, .step held followed reaches,
                further, stopped⟩
      · cases failed

theorem resolve?_eq_some_iff :
    resolve? spec limit node = .ok (some target) ↔ EndsAt spec limit node target := by
  constructor
  · exact endsAt_of_resolve?
  · intro ends
    obtain ⟨free, count, inside, reaches⟩ := ends
    exact resolve?_of_reaches reaches free inside

/-! ## References in ASCII -/

def Node.hasAsciiReferences (document : Node) : Prop :=
  ∀ reference ∈ document.references, isAscii reference = true

theorem Node.contains_of_at? {document found : Node} {way : List Part}
    (reached : document.at? way = some found) : document.Contains found := by
  induction way using List.reverseRecOn generalizing found with
  | nil =>
      cases reached
      exact .whole
  | append_singleton way part ih =>
      obtain ⟨parent, above, stepped⟩ := Node.at?_of_append reached
      rw [Node.at?_singleton] at stepped
      rcases Node.takes_cases (Node.takes_of_part? stepped) with
        ⟨name, members, rfl, rfl⟩ | ⟨index, items, rfl, rfl, -⟩
      · exact (ih above).get? stepped
      · exact (ih above).item (List.mem_of_getElem? stepped)

theorem Node.reference_of_get? {document : Node} (ascii : document.hasAsciiReferences)
    (inside : document.Contains node) (held : node.get? "$ref" = some (.str reference)) :
    isAscii reference = true := by
  cases node with
  | object members => exact ascii reference (Node.mem_references inside held)
  | _ => cases held

theorem Node.Contains.trans {outer : Node} (inside : outer.Contains node)
    (below : node.Contains target) : outer.Contains target := by
  induction below with
  | whole => exact inside
  | member _ among ih => exact ih.member among
  | item _ among ih => exact ih.item among

/-- What a chain comes to is a part of the node that it starts from, or of the document. -/
theorem Reaches.contains (reaches : Reaches spec count node last) :
    node.Contains last ∨ spec.Contains last := by
  induction reaches with
  | here => exact .inl .whole
  | step _ followed _ ih =>
      obtain ⟨names, way, -, descends⟩ := follow?_eq_some_iff.mp followed
      have inside := Node.contains_of_at? descends.at?_eq
      rcases ih with below | below
      · exact .inr (inside.trans below)
      · exact .inr below

theorem Reaches.isAscii_reference (reaches : Reaches spec count node last)
    (asciiSpec : spec.hasAsciiReferences) (asciiNode : node.hasAsciiReferences)
    (held : last.get? "$ref" = some (.str reference)) : isAscii reference = true := by
  rcases reaches.contains with inside | inside
  · exact Node.reference_of_get? asciiNode inside held
  · exact Node.reference_of_get? asciiSpec inside held

section Ascii

variable (asciiSpec : spec.hasAsciiReferences) (asciiNode : node.hasAsciiReferences)

include asciiSpec asciiNode

theorem resolve?_eq_error_iff :
    resolve? spec limit node = .error fault ↔
      fault = .badValue ∧ OverrunsWithin spec limit node := by
  constructor
  · intro failed
    obtain ⟨count, inside, last, reference, reaches, held, stopped⟩ :=
      reaches_of_resolve?_error failed
    obtain ⟨bad, overrun⟩ := (follow?_eq_error_iff
      (reaches.isAscii_reference asciiSpec asciiNode held)).mp stopped
    exact ⟨bad, count, inside, last, reference, reaches, held, overrun⟩
  · intro overruns
    obtain ⟨rfl, count, inside, last, reference, reaches, held, overrun⟩ := overruns
    have stopped := (follow?_eq_error_iff
      (reaches.isAscii_reference asciiSpec asciiNode held)).mpr ⟨rfl, overrun⟩
    exact resolve?_of_overrun reaches held stopped inside

/-- References in ASCII are followed up to a limit. A node is found if and only if the chain ends at
it within the limit, so that it is no reference itself, and a larger limit finds it again. Following
fails if and only if the chain comes to a list with a position of too many digits within the limit.
In all other cases, and where the chain leads in a ring, nothing is found. -/
theorem resolve_within_limit_iff (limit : Nat) :
    (∀ target, resolve? spec limit node = .ok (some target) ↔ EndsAt spec limit node target) ∧
    (∀ fault, resolve? spec limit node = .error fault ↔
      fault = .badValue ∧ OverrunsWithin spec limit node) ∧
    (resolve? spec limit node = .ok none ↔
      (∀ target, ¬ EndsAt spec limit node target) ∧ ¬ OverrunsWithin spec limit node) ∧
    (∀ count, Reaches spec (count + 1) node node → resolve? spec limit node = .ok none) ∧
    ∀ more target, limit ≤ more → resolve? spec limit node = .ok (some target) →
      resolve? spec more node = .ok (some target) := by
  have found (target : Node) : resolve? spec limit node = .ok (some target) ↔
      EndsAt spec limit node target := resolve?_eq_some_iff
  have failed (fault : Fault) : resolve? spec limit node = .error fault ↔
      fault = .badValue ∧ OverrunsWithin spec limit node := resolve?_eq_error_iff asciiSpec asciiNode
  have nothing : resolve? spec limit node = .ok none ↔
      (∀ target, ¬ EndsAt spec limit node target) ∧ ¬ OverrunsWithin spec limit node := by
    constructor
    · intro given_up
      constructor
      · intro target ends
        rw [(found target).mpr ends] at given_up
        cases given_up
      · intro overruns
        rw [(failed .badValue).mpr ⟨rfl, overruns⟩] at given_up
        cases given_up
    · intro neither
      cases outcome : resolve? spec limit node with
      | error fault => exact absurd ((failed fault).mp outcome).2 neither.2
      | ok target? =>
          cases target? with
          | none => rfl
          | some target => exact absurd ((found target).mp outcome) (neither.1 target)
  refine ⟨found, failed, nothing, fun steps ring => nothing.mpr ⟨?_, ?_⟩, ?_⟩
  · intro target ends
    obtain ⟨free, count, -, reaches⟩ := ends
    obtain ⟨reference, next, held, -⟩ := reaches.goes_on ring
    rw [free] at held
    cases held
  · intro overruns
    obtain ⟨count, -, last, reference, reaches, held, overrun⟩ := overruns
    obtain ⟨text, next, sameHeld, followed⟩ := reaches.goes_on ring
    cases held.symm.trans sameHeld
    have stopped : follow? spec reference = .error .badValue := (follow?_eq_error_iff
      (reaches.isAscii_reference asciiSpec asciiNode held)).mpr ⟨rfl, overrun⟩
    rw [followed] at stopped
    cases stopped
  · intro more target wider resolved
    obtain ⟨free, count, inside, reaches⟩ := (found target).mp resolved
    exact resolve?_of_reaches reaches free (Nat.lt_of_lt_of_le inside wider)

end Ascii

def referring (reference : String) : Node := .object [(.str "$ref", .str reference)]

/-- A document with a chain of two references, one that leads to itself, and a list. -/
def chainedReferences : Node :=
  .object [(.str "a", referring "#/b"), (.str "b", referring "#/c"), (.str "c", .str "end"),
    (.str "ring", referring "#/ring"), (.str "ids", .list [.int 1])]

theorem hasAsciiReferences_referring {reference : String} (ascii : isAscii reference = true) :
    (referring reference).hasAsciiReferences := by
  intro other among
  have same : (referring reference).references = [reference] := by
    simp [referring, Node.references, Node.referencesOfMembers, Node.text?]
  rw [same, List.mem_singleton] at among
  exact among ▸ ascii

/-- Three steps lead from a reference to the end of the chain, so that a limit of three is too small
for it. -/
theorem resolve_within_limit_iff_chained :
    resolve? chainedReferences 4 (referring "#/a") = .ok (some (.str "end")) ∧
    resolve? chainedReferences 16 (referring "#/a") = .ok (some (.str "end")) ∧
    resolve? chainedReferences 3 (referring "#/a") = .ok none ∧
    resolve? chainedReferences 16 (referring "#/ring") = .ok none ∧
    resolve? chainedReferences 1 (referring ("#/ids/" ++ ones 4301)) = .error .badValue := by
  have ascii : chainedReferences.hasAsciiReferences := by
    unfold Node.hasAsciiReferences
    decide +kernel
  have chain : Reaches chainedReferences 3 (referring "#/a") (.str "end") :=
    .step rfl rfl (.step rfl rfl (.step rfl rfl (.here _)))
  have ring : Reaches chainedReferences 1 (referring "#/ring") (referring "#/ring") :=
    .step rfl rfl (.here _)
  have start := resolve_within_limit_iff ascii (hasAsciiReferences_referring
    (show isAscii "#/a" = true by decide))
  have found := ((start 4).1 (.str "end")).mpr ⟨rfl, 3, by decide, chain⟩
  refine ⟨found, (start 4).2.2.2.2 16 _ (by decide) found, rfl, ?_, ?_⟩
  · exact (resolve_within_limit_iff ascii (hasAsciiReferences_referring (by decide)) 16).2.2.2.1 0 ring
  · obtain ⟨digits, index, long⟩ := ones_overlong (show Integer.digitLimit < 4301 by decide)
    have overrun : chainedReferences.IsOverrunBy ("#/ids/" ++ ones 4301) :=
      ⟨_, referenceNames?_position index, .member rfl (.here index long)⟩
    refine ((resolve_within_limit_iff ascii (hasAsciiReferences_referring
      (isAscii_idsReference digits)) 1).2.1 .badValue).mpr ⟨rfl, 0, by decide, ?_⟩
    exact ⟨_, _, .here _, rfl, overrun⟩

end ApiReview
