import ApiReview.Proofs.Address.Anchored
import ApiReview.Proofs.Patch.Parents
import ApiReview.Proofs.Spec.ReferenceChains

/-! Two readings of a local reference. Following it walks through members and items;
its address, which names members only, is a text that has to be read back. The two
come to the same place when the way is one of members and no name that the address
writes without quotes is a word that the grammar of addresses reserves. -/

set_option autoImplicit false

namespace ApiReview

open ApiReview.Address

variable {spec node target : Node} {names : List String} {way : List Part}
  {reference text : String}

/-! ## Addresses of references -/

theorem isReserved_referenceSteps (names : List String) :
    (∃ step ∈ referenceSteps names, step.isReserved = true) ↔
      ∃ name ∈ names.dropLast, isReservedWord name = true := by
  induction names with
  | nil => simp [referenceSteps]
  | cons name rest ih =>
      cases rest with
      | nil => simp [referenceSteps, WrittenStep.isReserved]
      | cons next rest =>
          rw [referenceSteps, List.dropLast_cons_cons]
          · simp only [List.exists_mem_cons_iff, ih]
            refine or_congr_left ?_
            split
            · rfl
            · -- a name in quotes is no reserved word, as those need none
              rename_i quoted
              refine iff_of_false Bool.false_ne_true fun reserved => quoted ?_
              unfold isReservedWord at reserved
              rcases Bool.or_eq_true_iff.mp reserved with same | same <;>
                (rw [eq_of_beq same]; decide)
          · simp

theorem selector_referenceSteps (names : List String) :
    (referenceSteps names).map WrittenStep.selector = names.map memberSelector := by
  induction names with
  | nil => rfl
  | cons name rest ih =>
      cases rest with
      | nil => rfl
      | cons next rest =>
          rw [referenceSteps, List.map_cons, List.map_cons, ih]
          · split <;> rfl
          · simp

theorem isWritten_memberSteps (names : List String) :
    IsWritten ("$" ++ memberSteps names) (referenceSteps names) := by
  rw [IsWritten, String.toList_append, writtenText_referenceSteps]
  rfl

theorem isPlain_referenceSteps (names : List String) :
    ∀ step ∈ referenceSteps names, step.isPlain = true :=
  fun step among => WrittenStep.isPlain_of_isNaming (referenceSteps_naming names step among)

theorem locate_reference_reserved (reserved : ∃ name ∈ names.dropLast, isReservedWord name = true)
    (document : Node) :
    locate document ("$" ++ memberSteps names) =
      .error (.refused (.malformed ("$" ++ memberSteps names))) := by
  rw [locate, ofText_reserved (isWritten_memberSteps names) (isPlain_referenceSteps names)
    ((isReserved_referenceSteps names).mpr reserved)]
  rfl

theorem locate_reference_free (free : ∀ name ∈ names.dropLast, isReservedWord name = false)
    (document : Node) : locate document ("$" ++ memberSteps names) = .ok (names.map .name) := by
  refine (isWritten_memberSteps names).locate_eq (selector_referenceSteps names)
    (isPlain_referenceSteps names) ?_ document
  intro step among
  refine Bool.eq_false_iff.mpr fun bad => ?_
  obtain ⟨name, inside, reserved⟩ := (isReserved_referenceSteps names).mp ⟨step, among, bad⟩
  rw [free name inside] at reserved
  cases reserved

/-! ## Ways of references -/

/-- Names lead to what a reference through them leads to when its way is one of members; at a list
they lead nowhere. -/
theorem Descends.lookup?_names (descends : Descends names node way target) :
    node.lookup? (names.map .name) = .ok (if way = names.map .name then some target else none) := by
  rw [Node.lookup?_names]
  refine congrArg Except.ok ?_
  induction descends with
  | here node => rfl
  | @member name names members child target way read _ ih =>
      have step : (Node.object members).part? (.name name) = some child := read
      rw [List.map_cons, Node.at?_cons, step, Option.bind_some, ih]
      simp only [List.cons.injEq, true_and]
  | @item name names items index child target way _ _ _ _ _ =>
      rw [if_neg (by simp)]
      rfl

/-- Following a reference and locating its address agree on where the reference leads if and only if
its way is one of members and no name in front of the last one is a reserved word. A reserved word
makes the address malformed; an item on the way makes it lead to no part of the document. -/
theorem reference_address_agrees_iff (reached : follow? spec reference = .ok (some target)) :
    ∃ names way text, referenceNames? reference = some names ∧ Descends names spec way target ∧
      ofReference reference = .ok text ∧
      ((∃ parts, locate spec text = .ok parts ∧ spec.lookup? parts = .ok (some target)) ↔
        way = names.map .name ∧ ∀ name ∈ names.dropLast, isReservedWord name = false) ∧
      ((∃ name ∈ names.dropLast, isReservedWord name = true) →
        locate spec text = .error (.refused (.malformed text))) ∧
      ((∀ name ∈ names.dropLast, isReservedWord name = false) →
        locate spec text = .ok (names.map .name) ∧
        spec.lookup? (names.map .name) =
          .ok (if way = names.map .name then some target else none)) := by
  unfold follow? at reached
  split at reached
  · rename_i names named
    obtain ⟨way, descends⟩ := exists_descends reached
    refine ⟨names, way, "$" ++ memberSteps names, named, descends,
      by rw [ofReference, named], ?_, fun reserved => locate_reference_reserved reserved spec,
      fun free => ⟨locate_reference_free free spec, descends.lookup?_names⟩⟩
    by_cases free : ∀ name ∈ names.dropLast, isReservedWord name = false
    · rw [locate_reference_free free spec]
      constructor
      · rintro ⟨parts, located, looked⟩
        cases located
        rw [descends.lookup?_names] at looked
        by_cases members : way = names.map .name
        · exact ⟨members, free⟩
        · rw [if_neg members] at looked
          cases looked
      · rintro ⟨members, -⟩
        exact ⟨_, rfl, by rw [descends.lookup?_names, if_pos members]⟩
    · have reserved : ∃ name ∈ names.dropLast, isReservedWord name = true := by
        simpa using free
      rw [locate_reference_reserved reserved spec]
      constructor
      · rintro ⟨parts, located, -⟩
        cases located
      · rintro ⟨-, free'⟩
        exact absurd free' free
  · cases reached

/-- A document in which one reference leads through members, and another one to an item. -/
def memberAndItem : Node :=
  .object [(.str "a", .object [(.str "it's", .int 1)]), (.str "b", .list [.int 2])]

theorem reference_address_agrees_iff_memberAndItem :
    (∃ text parts, ofReference "#/a/it's" = .ok text ∧ locate memberAndItem text = .ok parts ∧
      memberAndItem.lookup? parts = .ok (some (.int 1))) ∧
    follow? memberAndItem "#/b/0" = .ok (some (.int 2)) ∧
    ∃ text, ofReference "#/b/0" = .ok text ∧
      ¬ ∃ parts, locate memberAndItem text = .ok parts ∧
        memberAndItem.lookup? parts = .ok (some (.int 2)) := by
  have member : follow? memberAndItem "#/a/it's" = .ok (some (.int 1)) := by rfl
  have item : follow? memberAndItem "#/b/0" = .ok (some (.int 2)) := by rfl
  refine ⟨?_, item, ?_⟩
  · obtain ⟨names, way, text, named, descends, built, agrees, -⟩ :=
      reference_address_agrees_iff member
    have both : referenceNames? "#/a/it's" = some ["a", "it's"] := by decide +kernel
    cases both.symm.trans named
    have members := Descends.unique (.member rfl (.member rfl (.here _))) descends
    obtain ⟨parts, located, looked⟩ := agrees.mpr ⟨members, by decide⟩
    exact ⟨text, parts, built, located, looked⟩
  · obtain ⟨names, way, text, named, descends, built, agrees, -⟩ :=
      reference_address_agrees_iff item
    have both : referenceNames? "#/b/0" = some ["b", "0"] := by decide +kernel
    cases both.symm.trans named
    have one : Integer.ofFewDigits? "0".toList = some 0 := by decide +kernel
    have through := Descends.unique
      (.member rfl (.item (by decide +kernel) one rfl (.here _))) descends
    refine ⟨text, built, fun agreeing => ?_⟩
    obtain ⟨members, -⟩ := agrees.mp agreeing
    cases through.symm.trans members

end ApiReview
