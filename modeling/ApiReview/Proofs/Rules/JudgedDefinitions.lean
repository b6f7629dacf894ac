import ApiReview.Proofs.Address.Anchored
import ApiReview.Proofs.Rules.OperationFixes
import ApiReview.Proofs.Spec.QueryDeclarations

/-! Rules that judge a definition by a member that it lacks. References lead such a
rule to the definition; its fix sets the member at an address that is found apart
from them. After a fix the rule is led to the same place as before, if the fix sets
nothing on the way; so it is silenced exactly if the address means the definition
that is judged. -/

set_option autoImplicit false

namespace ApiReview

open ApiReview.Text

/-- How a rule gets from an operation to the definition that it judges. -/
structure Course where
  path : String
  key : String
  /-- The places that declarations and references lead through. -/
  trail : List (List Part)
  /-- The members on the way whose presence decides where it goes on. -/
  asked : List (List Part)
  judged : List Part
  /-- The member that the rule looks for in the definition. -/
  missed : List Part

/-- The place of the operation that a course starts from. -/
def Course.operation (course : Course) : List Part :=
  [.name "paths", .name course.path, .name course.key]

/-- A fix that sets a value at the end of a way sets nothing that a rule reads on its course. -/
structure LeavesAlone (document : Node) (way : List Part) (course : Course) : Prop where
  apart : ∀ place ∈ course.trail, ¬ way <+: place
  spares : SparesDeclarations document way
  unasked : ∀ place ∈ course.asked, ¬ place <+: way
  elsewhere : ¬ course.missed <+: way

/-- A fix that sets a value under members of the part at an address. -/
inductive SetsBelow (members : List String) (value : Node) (fix : Fix) : Prop
  | intro {text whole : String} {ending : List Address.WrittenStep} :
      Address.IsAddressText text →
      (∀ steps, Address.IsWritten text steps → Address.IsWritten whole (steps ++ ending)) →
      (∀ step ∈ ending, step.isPlain = true) →
      ending.map Address.WrittenStep.selector = members.map Address.memberSelector →
      fix.changes = [⟨.set, whole, none, none, value⟩] → SetsBelow members value fix

/-- What is known of a document in which a value was set under members of a place. -/
structure IsSetBelow (before after : Node) (place : List Part) (members : List String)
    (value : Node) : Prop where
  anchored : Address.IsAnchored before place
  planned : ∃ edits, parentEdits before (place ++ members.map .name) = .ok edits
  opened : before.isOpen (place ++ members.map .name) = true
  edited : after = Node.graft value (place ++ members.map .name) before

variable {rule : Rule} {settings : Settings} {vocabulary : Vocabulary}
  {document before after value base held : Node} {found rerun : List Finding} {finding : Finding}
  {members names : List String} {fix : Fix} {path key other : String} {anchor way : List Part}

/-! ## What fixes set -/

/-- A value that a fix set stands under the members of a place that its address means. -/
theorem SetsBelow.isSetBelow (sets : SetsBelow members value fix) (some_member : members ≠ [])
    (named : before.isNamed = true) (made : Change.applyAll fix.changes before = .ok after) :
    ∃ change place, fix.changes = [change] ∧
      change.locate before = .ok (place ++ members.map .name) ∧
      IsSetBelow before after place members value := by
  obtain ⟨address, behind, plain, ends, changes⟩ := sets
  rename_i text whole ending
  rw [changes] at made
  have applied := Change.applyAll_singleton made
  obtain ⟨edits, planned, _⟩ := Change.apply_ok applied
  obtain ⟨way, located, _⟩ := bind_ok planned
  obtain ⟨place, ⟨anchor, base, names, reached, rfl⟩, rfl⟩ :=
    address.locate_below named behind plain ends (mapError_ok located)
  have joined : anchor ++ names.map Part.name ++ members.map .name =
      anchor ++ (names ++ members).map .name := by simp
  have nonempty : names ++ members ≠ [] := by simp [some_member]
  have set := Change.set_ok rfl nonempty (located.trans (congrArg Except.ok joined)) reached applied
  rw [← joined] at set
  exact ⟨_, _, changes, located, ⟨anchor, base, names, reached, rfl⟩, set.2.2, set.2.1, set.1⟩

/-! ## Operations after a fix -/

/-- No operation comes into being when a value is set: what is an operation afterwards was in the
document before. -/
theorem at?_operation_of_set (reached : before.at? anchor = some base)
    (planned : ∃ edits, parentEdits before (anchor ++ names.map .name) = .ok edits)
    (outside : ¬ anchor ++ names.map Part.name <+: [.name "paths", .name path, .name key])
    (ends : ∀ name ∈ names.getLast?, name ≠ other) (some_name : names ≠ [])
    (now : (Node.graft value (anchor ++ names.map .name) before).at?
      [.name "paths", .name path, .name other] = some held) :
    ∃ node, before.at? [.name "paths", .name path, .name other] = some node := by
  by_contra absent
  have missing : before.at? [.name "paths", .name path, .name other] = none := by
    rw [Option.eq_none_iff_forall_ne_some]
    exact fun node found => absent ⟨node, found⟩
  have shape : [Part.name "paths", .name path, .name other] =
      [.name "paths", .name path] ++ [.name other] := rfl
  have apart : ¬ anchor ++ names.map Part.name <+: [.name "paths", .name path, .name other] := by
    intro inside
    rw [shape] at inside
    rcases List.prefix_concat_iff.mp inside with same | inside
    · obtain ⟨front, last, rfl⟩ := (List.eq_nil_or_concat' names).resolve_left some_name
      rw [List.map_append, List.map_singleton, ← List.append_assoc] at same
      have equal : last = other := by simpa using List.append_inj_right' same rfl
      exact ends last (by simp) equal
    · exact outside (inside.trans ⟨[.name key], rfl⟩)
  have above : [Part.name "paths", .name path, .name other] <+: anchor ++ names.map .name := by
    by_contra aside
    rw [Node.at?_graft_beside apart aside, missing] at now
    cases now
  obtain ⟨rest, split⟩ := above
  rcases List.append_eq_append_iff.mp split with ⟨between, same, _⟩ | ⟨between, same, tail⟩
  · rw [same] at reached
    obtain ⟨node, found, _⟩ := Node.at?_of_append reached
    exact absent ⟨node, found⟩
  · obtain ⟨front, more, rfl, rfl, rfl⟩ := List.map_eq_append_iff.mp tail
    have whole : anchor ++ (front ++ more).map Part.name =
        ("paths" :: path :: other :: more).map .name := split.symm
    obtain ⟨edits, planned⟩ := planned
    rw [whole] at planned apart
    refine absent ((parentEdits_protected planned).2 ?_)
    rintro rfl
    exact apart (List.prefix_refl _)

/-! ## Looks -/

/-- Whether a finding says that its rule failed. -/
def Finding.SaysFailed (finding : Finding) : Prop := "Rule failed".toList <+: finding.message.toList

theorem Finding.not_saysFailed {front back : String} (message : finding.message = front ++ back)
    (neither : ¬ "Rule failed".toList <+: front.toList ∧ ¬ front.toList <+: "Rule failed".toList) :
    ¬ finding.SaysFailed := by
  intro failed
  rw [SaysFailed, message, String.toList_append] at failed
  exact (List.prefix_or_prefix_of_prefix failed (List.prefix_append ..)).elim neither.1 neither.2

/-- A finding with a fix, or one that does not say that the rule failed, was reported by a look. -/
theorem Rule.looked_of_not_saysFailed
    (reported : rule.findingsOn settings vocabulary document = .ok found) (among : finding ∈ found)
    (regular : finding.fix? ≠ none ∨ ¬ finding.SaysFailed) :
    ∃ facts element report, ReviewFacts.ofSpec document settings vocabulary = .ok facts ∧
      .ok element ∈ facts.visits rule.kind ∧ rule.covers element = true ∧
      rule.look facts element = .ok report ∧ finding ∈ report := by
  obtain ⟨facts, derived, ran⟩ := Rule.findingsOn_ok reported
  obtain ⟨element, visited, covered, reports⟩ := Rule.mem_run ran among
  cases reports with
  | looked looked inside => exact ⟨facts, element, _, derived, visited, covered, looked, inside⟩
  | @failed cause _ shape =>
      rw [shape] at regular
      rcases regular with carried | regular
      · exact absurd rfl carried
      · refine absurd ?_ regular
        rw [Finding.SaysFailed, Rule.failureFinding]
        cases cause.text? with
        | none => exact List.prefix_refl _
        | some text =>
            refine ⟨": ".toList ++ text.toList, ?_⟩
            simp

/-! ## Rules -/

/-- The members that references and declarations of parameters are read from. -/
def declarationWords : List String := ["$ref", "name", "in", "parameters"]

/-- A rule that judges definitions by a member that they lack: what it reports is that the course
from an operation ends at a definition that lacks the member, and its fixes set that. -/
structure JudgesDefinitions (rule : Rule) (settings : Settings) (vocabulary : Vocabulary)
    (members : List String) (value : Node) (judges : Node → Finding → Course → Prop)
    (lacks : Node → List Part → Prop) : Prop where
  sound : ∀ {document facts element report finding},
    ReviewFacts.ofSpec document settings vocabulary = .ok facts → document.isNamed = true →
    .ok element ∈ facts.visits rule.kind → rule.covers element = true →
    rule.look facts element = .ok report → finding ∈ report →
    ∃ course, judges document finding course ∧ lacks document course.judged ∧
      ∀ fix, finding.fix? = some fix → SetsBelow members value fix
  complete : ∀ {document facts finding course},
    ReviewFacts.ofSpec document settings vocabulary = .ok facts → document.isNamed = true →
    judges document finding course → lacks document course.judged →
    ∃ element report, .ok element ∈ facts.visits rule.kind ∧ rule.covers element = true ∧
      rule.look facts element = .ok report ∧
      ∃ other ∈ report, other.path = finding.path ∧ other.message = finding.message
  unique : ∀ {document finding other course another}, judges document finding course →
    judges document other another → other.message = finding.message →
    another.operation = course.operation → another.judged = course.judged
  starts : ∀ {document finding course}, judges document finding course →
    isMethodKey course.key = true ∧ finding.path = upper course.key ++ " " ++ course.path ∧
      ¬ finding.SaysFailed ∧ course.operation ∈ course.trail ∧
      ∃ operation, document.at? course.operation = some (.object operation)
  ends : ∀ {document finding course}, judges document finding course →
    course.judged ∈ course.trail ∧ ∀ place ∈ course.trail, ∃ node, document.at? place = some node
  graft : ∀ {document finding course way}, judges document finding course →
    document.isOpen way = true → (∀ place ∈ course.trail, ¬ way <+: place) →
    SparesDeclarations document way →
    (∀ place ∈ course.asked, place <+: way →
      place ≠ way ∧ ∃ node, document.at? place = some node) →
    judges (Node.graft value way document) finding course
  stillLacks : ∀ {document finding course way}, judges document finding course →
    lacks document course.judged → ¬ way <+: course.judged → ¬ course.missed <+: way →
    lacks (Node.graft value way document) course.judged
  amended : ∀ {document place}, lacks document place →
    document.isOpen (place ++ members.map .name) = true →
    ¬ lacks (Node.graft value (place ++ members.map .name) document) place
  absent : ∀ {document place}, lacks document place →
    document.at? (place ++ members.map .name) = none
  asks : ∀ {document finding course}, judges document finding course → ∀ place ∈ course.asked,
    ∃ above name, place = above ++ [.name name] ∧ name ∉ members
  undeclared : ∀ name ∈ declarationWords, name ∉ members
  unlike : ∀ name ∈ members.getLast?, isMethodKey name = false
  some_member : members ≠ []
  named : value.isNamed = true

namespace JudgesDefinitions

variable {judges : Node → Finding → Course → Prop} {lacks : Node → List Part → Prop}
  {course : Course} {place : List Part}
  (judging : JudgesDefinitions rule settings vocabulary members value judges lacks)

include judging

section Set

variable (judged : judges before finding course)
  (set : IsSetBelow before after place members value)

include judged set

/-- A rule that is led to the definition whose member was set is led there afterwards. -/
theorem judges_amended (lacking : lacks before course.judged) (same : place = course.judged) :
    (∀ other ∈ course.trail, ¬ place ++ members.map Part.name <+: other) ∧
      judges after finding course := by
  subst same
  obtain ⟨onTrail, reached⟩ := judging.ends judged
  obtain ⟨definition, found⟩ := reached _ onTrail
  have apart : ∀ other ∈ course.trail, ¬ course.judged ++ members.map Part.name <+: other := by
    rintro other among ⟨rest, rfl⟩
    obtain ⟨node, held⟩ := reached _ among
    obtain ⟨inner, present, _⟩ := Node.at?_of_append held
    rw [judging.absent lacking] at present
    cases present
  have spares : ∀ name ∉ members, before.Spares (course.judged ++ members.map .name) name :=
    fun name fresh => Node.spares_below found fresh judging.some_member
  have declared : ∀ name ∈ declarationWords,
      before.Spares (course.judged ++ members.map .name) name :=
    fun name word => spares name (judging.undeclared name word)
  refine ⟨apart, ?_⟩
  rw [set.edited]
  refine judging.graft judged set.opened apart ⟨declared _ (by decide), declared _ (by decide),
    declared _ (by decide), declared _ (by decide)⟩ fun other among inside => ?_
  obtain ⟨above, name, rfl, fresh⟩ := judging.asks judged other among
  exact spares name fresh above inside

/-- The operation at the location of a finding stays where it was. -/
theorem operation_eq {other : Finding} {another : Course} (named : before.isNamed = true)
    (distinct : hasDistinctMethods before = true)
    (outside : ¬ place ++ members.map Part.name <+: course.operation)
    (later : judges after other another) (samePath : other.path = finding.path) :
    another.operation = course.operation := by
  obtain ⟨method, located, _, _, operation, operationAt⟩ := judging.starts judged
  obtain ⟨methodToo, locatedToo, _, _, now, nowAt⟩ := judging.starts later
  rw [located, locatedToo] at samePath
  obtain ⟨sameMethod, equalPath⟩ := location_injective methodToo method samePath
  obtain ⟨anchor, base, names, reached, rfl⟩ := set.anchored
  have joined : anchor ++ names.map Part.name ++ members.map .name =
      anchor ++ (names ++ members).map .name := by simp
  have planned := set.planned
  rw [set.edited] at nowAt
  rw [joined] at planned outside nowAt
  rw [Course.operation, equalPath] at nowAt
  have ends : ∀ name ∈ (names ++ members).getLast?, name ≠ another.key := by
    intro name last same
    rw [List.getLast?_append_of_ne_nil _ judging.some_member] at last
    have unlike := judging.unlike name last
    rw [same, methodToo] at unlike
    cases unlike
  obtain ⟨node, found⟩ := at?_operation_of_set reached planned outside ends
    (by simp [judging.some_member]) nowAt
  cases before with
  | object root =>
      rw [Course.operation, Course.operation, equalPath, key_unique distinct found operationAt sameMethod]
  | _ => cases operationAt

/-- Where the member was set in the definition that is judged, the rule does not report it again. -/
theorem not_mem_of_amended {other : Finding} (named : before.isNamed = true)
    (distinct : hasDistinctMethods before = true) (lacking : lacks before course.judged)
    (same : place = course.judged)
    (again : rule.findingsOn settings vocabulary after = .ok rerun) (among : other ∈ rerun)
    (samePath : other.path = finding.path) : other.message ≠ finding.message := by
  intro sameMessage
  obtain ⟨apart, later⟩ := judging.judges_amended judged set lacking same
  obtain ⟨_, _, regular, starts, _⟩ := judging.starts judged
  have afterNamed : after.isNamed = true := by
    rw [set.edited]
    exact Node.isNamed_graft named judging.named
  obtain ⟨facts, element, report, derived, visited, covered, looked, inside⟩ :=
    Rule.looked_of_not_saysFailed again among
      (.inr (by rwa [Finding.SaysFailed, sameMessage]))
  obtain ⟨another, judgedToo, lacksToo, _⟩ :=
    judging.sound derived afterNamed visited covered looked inside
  have sameOperation := judging.operation_eq judged set named distinct
    (apart _ starts) judgedToo samePath
  rw [judging.unique later judgedToo sameMessage sameOperation, ← same, set.edited] at lacksToo
  rw [← same] at lacking
  exact judging.amended lacking set.opened lacksToo

/-- Where the rule's course was left alone, the rule reports the definition again. -/
theorem mem_of_leavesAlone (named : before.isNamed = true) (lacking : lacks before course.judged)
    (alone : LeavesAlone before (place ++ members.map .name) course)
    (again : rule.findingsOn settings vocabulary after = .ok rerun) :
    ∃ other ∈ rerun, other.path = finding.path ∧ other.message = finding.message := by
  obtain ⟨onTrail, _⟩ := judging.ends judged
  have later := judging.graft judged set.opened alone.apart alone.spares
    fun other among inside => absurd inside (alone.unasked other among)
  have lacksLater := judging.stillLacks judged lacking (alone.apart _ onTrail) alone.elsewhere
  rw [← set.edited] at later lacksLater
  have afterNamed : after.isNamed = true := by
    rw [set.edited]
    exact Node.isNamed_graft named judging.named
  obtain ⟨facts, derived, ran⟩ := Rule.findingsOn_ok again
  obtain ⟨element, report, visited, covered, looked, other, inside, same⟩ :=
    judging.complete derived afterNamed later lacksLater
  exact ⟨other, Rule.run_mem ran visited covered looked inside, same⟩

end Set

/-- A fix that is applied sets its member at one place. If the rule that proposed it is led to this
place, it does not report its finding again; if the fix sets nothing on the way of the rule, which
is led elsewhere, it does. -/
theorem repeated_iff (named : before.isNamed = true) (distinct : hasDistinctMethods before = true)
    (reported : rule.findingsOn settings vocabulary before = .ok found) (among : finding ∈ found)
    (carried : finding.fix? = some fix) (made : Change.applyAll fix.changes before = .ok after) :
    ∃ change place, fix.changes = [change] ∧
      change.locate before = .ok (place ++ members.map .name) ∧
      (∃ course, judges before finding course) ∧
      ∀ course, judges before finding course →
        (place = course.judged ∨ LeavesAlone before (place ++ members.map .name) course) →
        ∀ rerun, rule.findingsOn settings vocabulary after = .ok rerun →
          ((∃ other ∈ rerun, other.path = finding.path ∧ other.message = finding.message) ↔
            place ≠ course.judged) := by
  obtain ⟨facts, element, report, derived, visited, covered, looked, inside⟩ :=
    Rule.looked_of_not_saysFailed reported among (.inl (by rw [carried]; simp))
  obtain ⟨first, judgedFirst, lacking, sets⟩ :=
    judging.sound derived named visited covered looked inside
  obtain ⟨change, place, changes, located, set⟩ :=
    (sets fix carried).isSetBelow judging.some_member named made
  refine ⟨change, place, changes, located, ⟨first, judgedFirst⟩, ?_⟩
  intro course judged either rerun again
  have sameOperation : first.operation = course.operation := by
    obtain ⟨method, placed, _, _, operation, operationAt⟩ := judging.starts judged
    obtain ⟨methodFirst, placedFirst, _, _, now, nowAt⟩ := judging.starts judgedFirst
    obtain ⟨sameMethod, equalPath⟩ :=
      location_injective methodFirst method (placedFirst.symm.trans placed)
    rw [Course.operation, equalPath] at nowAt
    cases before with
    | object root =>
        rw [Course.operation, Course.operation, equalPath,
          key_unique distinct nowAt operationAt sameMethod]
    | _ => cases operationAt
  rw [judging.unique judged judgedFirst rfl sameOperation] at lacking
  constructor
  · rintro ⟨other, inRerun, samePath, sameMessage⟩ same
    exact judging.not_mem_of_amended judged set named distinct lacking same again inRerun samePath
      sameMessage
  · intro different
    rcases either with same | alone
    · exact absurd same different
    · exact judging.mem_of_leavesAlone judged set named lacking alone again

end JudgesDefinitions

end ApiReview
