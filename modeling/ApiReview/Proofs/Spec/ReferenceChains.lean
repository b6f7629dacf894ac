import ApiReview.Proofs.Node.Alike
import ApiReview.Proofs.Outcome
import ApiReview.Spec.Reference

/-! Where references lead. Following a chain of references from a place passes
through other places of the document and ends at one; the relations here say at
which, beside the functions that return only the node there. A chain is the same
in a document into which a value was put, unless the value lies at or above one of
its places or the way there opens a reference. -/

set_option autoImplicit false

namespace ApiReview

variable {names : List String} {document before node target now value : Node} {limit : Nat}
  {way place last other next : List Part} {trail : List (List Part)} {name reference : String}

/-- The way that names take from a node, and the node at its end. -/
inductive Descends : List String → Node → List Part → Node → Prop
  | here (node : Node) : Descends [] node [] node
  | member {name : String} {names : List String} {members : Members} {child target : Node}
      {way : List Part} :
      Members.get? members name = some child → Descends names child way target →
      Descends (name :: names) (.object members) (.name name :: way) target
  | item {name : String} {names : List String} {items : List Node} {index : Nat}
      {child target : Node} {way : List Part} :
      isIndexToken name = true → Integer.ofFewDigits? name.toList = some index →
      items[index]? = some child → Descends names child way target →
      Descends (name :: names) (.list items) (.position (.ofNat index) :: way) target

/-- The places that a chain of references passes through, the first and the last one included, and
the last one, which holds no reference. -/
inductive Resolves (document : Node) : Nat → List Part → List (List Part) → List Part → Prop
  | rest {limit : Nat} {place : List Part} {node : Node} :
      document.at? place = some node → node.get? "$ref" = none →
      Resolves document (limit + 1) place [place] place
  | step {limit : Nat} {place next last : List Part} {trail : List (List Part)}
      {node target : Node} {reference : String} {names : List String} :
      document.at? place = some node → node.get? "$ref" = some (.str reference) →
      Address.referenceNames? reference = some names → Descends names document next target →
      Resolves document limit next trail last →
      Resolves document (limit + 1) place (place :: trail) last

/-! ## The functions that follow references -/

theorem Descends.at?_eq (descends : Descends names node way target) : node.at? way = some target := by
  induction descends with
  | here node => rfl
  | @member name names members child target way read _ ih =>
      have step : (Node.object members).part? (.name name) = some child := read
      rw [Node.at?_cons, step]
      exact ih
  | @item name names items index child target way _ _ read _ ih =>
      have step : (Node.list items).part? (.position (.ofNat index)) = some child := read
      rw [Node.at?_cons, step]
      exact ih

theorem Descends.descend?_eq (descends : Descends names node way target) :
    descend? names node = .ok (some target) := by
  induction descends with
  | here node => rfl
  | member read _ ih =>
      rw [descend?, read]
      exact ih
  | item token digits read _ ih =>
      rw [descend?, if_pos token, digits]
      simp only [read]
      exact ih

theorem exists_descends (reached : descend? names node = .ok (some target)) :
    ∃ way, Descends names node way target := by
  induction names generalizing node with
  | nil =>
      cases reached
      exact ⟨[], .here _⟩
  | cons name names ih =>
      cases node with
      | object members =>
          rw [descend?] at reached
          split at reached
          · rename_i child read
            obtain ⟨way, descends⟩ := ih reached
            exact ⟨_, .member read descends⟩
          · cases reached
      | list items =>
          rw [descend?] at reached
          split at reached
          · rename_i token
            split at reached
            · rename_i index digits
              split at reached
              · rename_i child read
                obtain ⟨way, descends⟩ := ih reached
                exact ⟨_, .item token digits read descends⟩
              · cases reached
            · cases reached
          · cases reached
      | _ => cases reached

theorem Descends.unique {another : List Part} {found : Node}
    (descends : Descends names node way target) (again : Descends names node another found) :
    another = way := by
  induction descends generalizing another with
  | here node =>
      cases again
      rfl
  | member read _ ih =>
      cases again with
      | member same behind =>
          cases read.symm.trans same
          rw [ih behind]
  | item _ digits read _ ih =>
      cases again with
      | item _ sameDigits same behind =>
          cases digits.symm.trans sameDigits
          cases read.symm.trans same
          rw [ih behind]

theorem exists_resolves (found : document.at? place = some node)
    (resolved : resolve? document limit node = .ok (some target)) :
    ∃ trail last, Resolves document limit place trail last ∧ document.at? last = some target := by
  induction limit generalizing place node with
  | zero => cases resolved
  | succ limit ih =>
      rw [resolve?] at resolved
      split at resolved
      · rename_i free
        cases resolved
        exact ⟨_, _, .rest found free, found⟩
      · rename_i reference held
        obtain ⟨target?, followed, resolved⟩ := bind_ok resolved
        rw [follow?] at followed
        split at followed
        · rename_i names read
          cases target? with
          | none => cases resolved
          | some next =>
              obtain ⟨way, descends⟩ := exists_descends followed
              obtain ⟨trail, last, resolves, ends⟩ := ih descends.at?_eq resolved
              exact ⟨_, last, .step found held read descends resolves, ends⟩
        · cases followed
          cases resolved
      · cases resolved

theorem Resolves.resolve?_eq (resolves : Resolves document limit place trail last)
    (found : document.at? place = some node) (ends : document.at? last = some target) :
    resolve? document limit node = .ok (some target) := by
  induction resolves generalizing node with
  | rest here free =>
      cases here.symm.trans found
      cases found.symm.trans ends
      rw [resolve?, free]
  | step here held read descends _ ih =>
      cases here.symm.trans found
      have followed := descends.descend?_eq
      rw [resolve?, held]
      simp only [follow?, read, followed, bind, Except.bind]
      exact ih descends.at?_eq ends

theorem Resolves.unique {another : List Part} {passed : List (List Part)}
    (resolves : Resolves document limit place trail last)
    (again : Resolves document limit place passed another) : passed = trail ∧ another = last := by
  induction resolves generalizing passed another with
  | rest found free =>
      cases again with
      | rest => exact ⟨rfl, rfl⟩
      | step here held =>
          cases found.symm.trans here
          rw [free] at held
          cases held
  | step found held read descends _ ih =>
      cases again with
      | rest here free =>
          cases found.symm.trans here
          rw [held] at free
          cases free
      | step here sameHeld sameRead sameDescends behind =>
          cases found.symm.trans here
          cases held.symm.trans sameHeld
          cases read.symm.trans sameRead
          cases descends.unique sameDescends
          obtain ⟨rfl, rfl⟩ := ih behind
          exact ⟨rfl, rfl⟩

theorem Resolves.head_mem (resolves : Resolves document limit place trail last) : place ∈ trail := by
  cases resolves with
  | rest => exact List.mem_singleton.mpr rfl
  | step => exact List.mem_cons_self

theorem Resolves.last_mem (resolves : Resolves document limit place trail last) : last ∈ trail := by
  induction resolves with
  | rest => exact List.mem_singleton.mpr rfl
  | step _ _ _ _ _ ih => exact List.mem_cons_of_mem _ ih

/-- Every place that a chain passes through is one of the document. -/
theorem Resolves.exists_at? (resolves : Resolves document limit place trail last)
    (among : other ∈ trail) : ∃ found, document.at? other = some found := by
  induction resolves with
  | rest found _ =>
      rw [List.mem_singleton.mp among]
      exact ⟨_, found⟩
  | step found _ _ _ _ ih =>
      rcases List.mem_cons.mp among with rfl | among
      · exact ⟨_, found⟩
      · exact ih among

/-! ## After a value was put into the document -/

/-- Putting a value at the end of a way leaves members with a name alone: none is created on the way
and none is replaced at its end. -/
def Node.Spares (document : Node) (way : List Part) (name : String) : Prop :=
  ∀ place, place ++ [.name name] <+: way →
    place ++ [.name name] ≠ way ∧ ∃ found, document.at? (place ++ [.name name]) = some found

/-- Members that are set below a node that exists are the only ones that may be new. -/
theorem Node.spares_below {names : List String} (found : before.at? place = some node)
    (fresh : name ∉ names) (nonempty : names ≠ []) :
    before.Spares (place ++ names.map .name) name := by
  intro other inside
  have above : other ++ [.name name] <+: place := by
    obtain ⟨rest, split⟩ := inside
    rcases List.append_eq_append_iff.mp split with ⟨between, same, _⟩ | ⟨between, same, tail⟩
    · exact ⟨between, same.symm⟩
    · rcases List.eq_nil_or_concat' between with rfl | ⟨front, last, rfl⟩
      · exact ⟨[], by simpa using same⟩
      · rw [← List.append_assoc] at same
        have ends : Part.name name = last := by simpa using List.append_inj_right' same rfl
        have listed : Part.name name ∈ names.map Part.name := by
          rw [tail, ends]
          simp
        obtain ⟨found, inside, shape⟩ := List.mem_map.mp listed
        cases shape
        exact absurd inside fresh
  refine ⟨fun same => ?_, ?_⟩
  · have shorter := above.length_le
    rw [same, List.length_append, List.length_map] at shorter
    have some_name := List.length_pos_of_ne_nil nonempty
    omega
  · obtain ⟨rest, rfl⟩ := above
    obtain ⟨inner, reached, _⟩ := Node.at?_of_append found
    exact ⟨inner, reached⟩

theorem Node.Spares.apart (spares : before.Spares way name) (apart : ¬ way <+: place) :
    ¬ way <+: place ++ [.name name] := by
  intro inside
  rcases List.prefix_concat_iff.mp inside with same | inside
  · exact (spares place (same ▸ List.prefix_refl _)).1 same.symm
  · exact apart inside

/-- A member that a graft spares reads as before, but for what lies further down. -/
theorem Node.Spares.alike (spares : before.Spares way name) (value : Node)
    (apart : ¬ way <+: place) :
    Option.Rel Node.Alike (before.at? (place ++ [.name name]))
      ((Node.graft value way before).at? (place ++ [.name name])) :=
  Node.at?_graft_alike (spares.apart apart) fun above => (spares place above).2

theorem Node.Spares.text_iff (spares : before.Spares way name) (apart : ¬ way <+: place)
    (text : String) :
    before.at? (place ++ [.name name]) = some (.str text) ↔
      (Node.graft value way before).at? (place ++ [.name name]) = some (.str text) := by
  have alike := spares.alike value apart
  constructor
  · intro held
    rw [held] at alike
    cases after : (Node.graft value way before).at? (place ++ [.name name]) with
    | none => simp [after] at alike
    | some found =>
        rw [after, Option.rel_some_some] at alike
        rw [alike.eq_str]
  · intro held
    rw [held] at alike
    cases old : before.at? (place ++ [.name name]) with
    | none => simp [old] at alike
    | some found =>
        rw [old, Option.rel_some_some] at alike
        rw [alike.str_eq]

theorem Node.Spares.none_iff (spares : before.Spares way name) (apart : ¬ way <+: place) :
    before.at? (place ++ [.name name]) = none ↔
      (Node.graft value way before).at? (place ++ [.name name]) = none := by
  have alike := spares.alike value apart
  constructor
  · intro missing
    rw [missing] at alike
    cases after : (Node.graft value way before).at? (place ++ [.name name]) with
    | none => rfl
    | some found => simp [after] at alike
  · intro missing
    rw [missing] at alike
    cases old : before.at? (place ++ [.name name]) with
    | none => rfl
    | some found => simp [old] at alike

/-- Two nodes are of one kind as far as steps into them go. -/
def Node.SameKind (first second : Node) : Prop :=
  first.isObject = second.isObject ∧ first.items?.isSome = second.items?.isSome

theorem Node.Alike.sameKind {after : Node} (alike : Node.Alike before after) :
    Node.SameKind before after := by
  cases alike with
  | same => exact ⟨rfl, rfl⟩
  | objects => exact ⟨rfl, rfl⟩
  | lists => exact ⟨rfl, rfl⟩

/-- A way through nodes of the same kinds is taken by the same names. -/
theorem Descends.transfer (descends : Descends names node way target)
    (agree : ∀ above, above <+: way → ∃ first second, node.at? above = some first ∧
      now.at? above = some second ∧ Node.SameKind first second) :
    ∃ reached, Descends names now way reached := by
  induction descends generalizing now with
  | here node => exact ⟨now, .here now⟩
  | @member name names members child target way read _ ih =>
      obtain ⟨first, second, here, there, kind, _⟩ := agree [] List.nil_prefix
      cases here
      cases there
      have step : (Node.object members).part? (.name name) = some child := read
      cases now with
      | object later =>
          obtain ⟨_, other, _, found, _⟩ := agree [.name name] (by simp)
          have laterRead : Members.get? later name = some other := by
            rw [Node.at?_singleton] at found
            exact found
          have laterStep : (Node.object later).part? (.name name) = some other := laterRead
          obtain ⟨reached, behind⟩ := ih fun above inside => by
            have whole := agree (.name name :: above) (List.cons_prefix_cons.mpr ⟨rfl, inside⟩)
            rwa [Node.at?_cons, Node.at?_cons, step, laterStep, Option.bind_some,
              Option.bind_some] at whole
          exact ⟨reached, .member laterRead behind⟩
      | _ => cases kind
  | @item name names items index child target way token digits read _ ih =>
      obtain ⟨first, second, here, there, _, kind⟩ := agree [] List.nil_prefix
      cases here
      cases there
      have step : (Node.list items).part? (.position (.ofNat index)) = some child := read
      cases now with
      | list later =>
          obtain ⟨_, other, _, found, _⟩ := agree [.position (.ofNat index)] (by simp)
          have laterRead : later[index]? = some other := by
            rw [Node.at?_singleton] at found
            exact found
          have laterStep : (Node.list later).part? (.position (.ofNat index)) = some other :=
            laterRead
          obtain ⟨reached, behind⟩ := ih fun above inside => by
            have whole := agree (.position (.ofNat index) :: above)
              (List.cons_prefix_cons.mpr ⟨rfl, inside⟩)
            rwa [Node.at?_cons, Node.at?_cons, step, laterStep, Option.bind_some,
              Option.bind_some] at whole
          exact ⟨reached, .item token digits laterRead behind⟩
      | _ => cases kind

/-- All that lies above a place outside of a grafted value is of the same kind as before. -/
theorem sameKind_above (value : Node) (found : before.at? place = some node)
    (apart : ¬ way <+: place) {above : List Part} (inside : above <+: place) :
    ∃ first second, before.at? above = some first ∧
      (Node.graft value way before).at? above = some second ∧ Node.SameKind first second := by
  obtain ⟨rest, rfl⟩ := inside
  obtain ⟨first, reached, _⟩ := Node.at?_of_append found
  have outside : ¬ way <+: above := fun below => apart (below.trans (List.prefix_append ..))
  obtain ⟨second, later, alike⟩ := Node.at?_graft_apart value outside reached
  exact ⟨first, second, reached, later, alike.sameKind⟩

/-- A chain of references stays when a value is put outside of its places. -/
theorem Resolves.graft (resolves : Resolves before limit place trail last)
    (spares : before.Spares way "$ref") (apart : ∀ other ∈ trail, ¬ way <+: other) (value : Node) :
    Resolves (Node.graft value way before) limit place trail last := by
  induction resolves with
  | @rest limit place node found free =>
      have outside := apart place (List.mem_singleton.mpr rfl)
      obtain ⟨now, reached, _⟩ := Node.at?_graft_apart value outside found
      refine .rest reached ?_
      rw [← Node.at?_member reached, ← spares.none_iff outside, Node.at?_member found]
      exact free
  | @step limit place next last trail node target reference names found held read descends behind ih =>
      have outside := apart place List.mem_cons_self
      have ahead := apart next (List.mem_cons_of_mem _ behind.head_mem)
      obtain ⟨now, reached, _⟩ := Node.at?_graft_apart value outside found
      obtain ⟨later, descendsNow⟩ := descends.transfer fun above inside =>
        sameKind_above value descends.at?_eq ahead inside
      refine .step reached ?_ read descendsNow
        (ih fun other among => apart other (List.mem_cons_of_mem _ among))
      rw [← Node.at?_member reached, ← spares.text_iff outside, Node.at?_member found]
      exact held

/-- What stands at a place after a graft stood there before, up to what lies further down, or it is
new: a part of the value, or an object that was opened on the way to it. New nodes have no member
that the graft spares and the value does not hold. -/
theorem at?_graft_cases (opened : before.isOpen way = true)
    (found : (Node.graft value way before).at? place = some now) :
    (¬ way <+: place ∧ ∃ node, before.at? place = some node ∧ Node.Alike node now) ∨
      ∀ name, before.Spares way name →
        (∀ below inner, value.at? below = some inner → inner.get? name = none) →
        now.get? name = none := by
  by_cases inside : way <+: place
  · obtain ⟨below, rfl⟩ := inside
    rw [Node.at?_append_of_some (Node.at?_graft_self opened)] at found
    exact .inr fun name _ quiet => quiet below now found
  · cases old : before.at? place with
    | some node =>
        obtain ⟨later, reached, alike⟩ := Node.at?_graft_apart value inside old
        cases found.symm.trans reached
        exact .inl ⟨inside, node, rfl, alike⟩
    | none =>
        refine .inr fun name spares _ => ?_
        have missing : before.at? (place ++ [.name name]) = none := by
          rw [Node.at?_append, old, Option.bind_none]
        rw [← Node.at?_member found]
        exact (spares.none_iff inside).mp missing

/-- A chain of references in a document into which a value was put, which ends at a node with a
member that the value does not bring along, is a chain of the document before. -/
theorem Resolves.of_graft
    (resolves : Resolves (Node.graft value way before) limit place trail last)
    (opened : before.isOpen way = true) (spares : before.Spares way "$ref")
    (sparesName : before.Spares way name)
    (quiet : ∀ below inner, value.at? below = some inner →
      inner.get? "$ref" = none ∧ inner.get? name = none)
    (ends : (Node.graft value way before).at? (last ++ [.name name]) ≠ none) :
    Resolves before limit place trail last ∧ ∀ other ∈ trail, ¬ way <+: other := by
  induction resolves with
  | @rest limit place now found free =>
      rw [Node.at?_member found] at ends
      rcases at?_graft_cases opened found with ⟨outside, node, old, _⟩ | fresh
      · refine ⟨.rest old ?_, fun other among => ?_⟩
        · rw [← Node.at?_member old, spares.none_iff outside, Node.at?_member found]
          exact free
        · rw [List.mem_singleton.mp among]
          exact outside
      · exact absurd (fresh name sparesName fun below inner held => (quiet below inner held).2) ends
  | @step limit place next last trail now target reference names found held read descends behind ih =>
      rcases at?_graft_cases opened found with ⟨outside, node, old, _⟩ | fresh
      · obtain ⟨chain, apart⟩ := ih ends
        obtain ⟨first, firstFound⟩ := chain.exists_at? chain.head_mem
        obtain ⟨reached, descendsBefore⟩ := descends.transfer fun above inside => by
          obtain ⟨older, newer, olderFound, newerFound, one, two⟩ :=
            sameKind_above value firstFound (apart next chain.head_mem) inside
          exact ⟨newer, older, newerFound, olderFound, one.symm, two.symm⟩
        refine ⟨.step old ?_ read descendsBefore chain, fun other among => ?_⟩
        · rw [← Node.at?_member old, spares.text_iff outside, Node.at?_member found]
          exact held
        · rcases List.mem_cons.mp among with rfl | among
          · exact outside
          · exact apart other among
      · rw [fresh "$ref" spares fun below inner inside => (quiet below inner inside).1] at held
        cases held

end ApiReview
