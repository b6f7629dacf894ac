import Mathlib
import ApiReview.Path.Singleton
import ApiReview.Proofs.Node.Members

/-! Which paths are singletons. A declared path without placeholders is one unless an
item of it is declared; the beginning of such a path that is not declared is one
unless a declared path leads through an item of it. Texts are taken as they are:
neither marks of patterns nor repeated slashes have a meaning of their own. -/

set_option autoImplicit false

namespace ApiReview

open ApiReview.Text

/-- A path is an item of a base path: one placeholder stands behind it. -/
def Path.IsItemOf (path base : String) : Prop :=
  ∃ name : String, name ≠ "" ∧ '/' ∉ name.toList ∧ path = base ++ "/\x7b" ++ name ++ "\x7d"

/-- A path starts with an item of a base path. -/
def Path.StartsWithItemOf (path base : String) : Prop :=
  ∃ name rest : String, name ≠ "" ∧ '/' ∉ name.toList ∧
    path = base ++ "/\x7b" ++ name ++ "\x7d" ++ rest

/-- A path that is declared for one resource. -/
structure Path.IsDeclaredSingleton (declared : List String) (path : String) : Prop where
  among : path ∈ declared
  notRoot : path ≠ "/"
  plain : '\x7b' ∉ path.toList
  alone : ∀ other ∈ declared, ¬ Path.IsItemOf other path

/-- A path that is not declared, but is made of the first `count` segments of one that is. -/
structure Path.IsUndeclaredSingleton (declared : List String) (path : String)
    (source : String) (count : Nat) : Prop where
  missing : path ∉ declared
  among : source ∈ declared
  plain : '\x7b' ∉ source.toList
  inside : 1 ≤ count ∧ count < (Path.segments source).length
  shape : path = "/" ++ String.intercalate "/" ((Path.segments source).take count)
  noVersion : ∀ last, (Path.segments source)[count - 1]? = some last →
    Segment.isVersion last = false
  alone : ∀ other ∈ declared, ¬ Path.StartsWithItemOf other path

/-- The keys of the paths of a document are these texts; an absent or empty part has none. -/
def Node.DeclaresPaths (spec : Node) (declared : List String) : Prop :=
  ∃ root paths : Members, spec = .object root ∧
    Node.optional (Members.get? root "paths") = .object paths ∧
    Members.keys paths = declared.map Key.str

variable {base path rest : List Char} {declared : List String} {spec : Node}

/-! ## Items -/

theorem Path.behindItemBrace?_eq_some : behindItemBrace? base path = some rest ↔
    path = base ++ ['/', '\x7b'] ++ rest := by
  rw [behindItemBrace?]
  constructor
  · intro read
    obtain ⟨front, behind⟩ := Option.ite_none_right_eq_some.mp read
    obtain ⟨more, rfl⟩ := List.isPrefixOf_iff_prefix.mp front
    rw [List.drop_left] at behind
    rw [Option.some.inj behind]
  · rintro rfl
    rw [if_pos (List.isPrefixOf_iff_prefix.mpr (List.prefix_append _ _)), List.drop_left]

theorem Path.isPlaceholderRest_iff : isPlaceholderRest rest = true ↔
    ∃ name, name ≠ [] ∧ '/' ∉ name ∧ rest = name ++ ['\x7d'] := by
  simp only [isPlaceholderRest, Bool.and_eq_true, decide_eq_true_eq, beq_iff_eq, Bool.not_eq_true',
    List.contains_eq_mem, decide_eq_false_iff_not]
  constructor
  · rintro ⟨⟨long, ends⟩, whole⟩
    obtain ⟨name, rfl⟩ := List.getLast?_eq_some_iff.mp ends
    refine ⟨name, ?_, fun slash => whole (List.mem_append_left _ slash), rfl⟩
    rintro rfl
    simp at long
  · rintro ⟨name, filled, whole, rfl⟩
    have long := List.length_pos_iff.mpr filled
    refine ⟨⟨?_, List.getLast?_concat⟩, ?_⟩
    · rw [List.length_append]
      simp only [List.length_singleton]
      omega
    · simpa using whole

theorem Path.isItem_iff (single : '\n' ∉ path) : isItem base path = true ↔
    ∃ name, name ≠ [] ∧ '/' ∉ name ∧ path = base ++ ['/', '\x7b'] ++ (name ++ ['\x7d']) := by
  rw [isItem, Option.any_eq_true]
  constructor
  · rintro ⟨rest, behind, placeholder⟩
    have split := behindItemBrace?_eq_some.mp behind
    have closed : isPlaceholderRest rest = true := by
      rw [atLineEnd, Bool.or_eq_true, Bool.and_eq_true, beq_iff_eq] at placeholder
      rcases placeholder with here | ⟨lineEnd, -⟩
      · exact here
      · exact absurd (split ▸ List.mem_append_right _ (List.mem_of_getLast? lineEnd)) single
    obtain ⟨name, filled, whole, rfl⟩ := isPlaceholderRest_iff.mp closed
    exact ⟨name, filled, whole, split⟩
  · rintro ⟨name, filled, whole, split⟩
    refine ⟨_, behindItemBrace?_eq_some.mpr split, ?_⟩
    rw [atLineEnd, isPlaceholderRest_iff.mpr ⟨name, filled, whole, rfl⟩, Bool.true_or]

theorem Path.addressesItem_iff : addressesItem base path = true ↔
    ∃ name rest, name ≠ [] ∧ '/' ∉ name ∧
      path = base ++ ['/', '\x7b'] ++ (name ++ ['\x7d'] ++ rest) := by
  rw [addressesItem, Option.any_eq_true]
  simp only [List.contains_iff_mem]
  constructor
  · rintro ⟨rest, behind, brace⟩
    obtain ⟨before, after, split⟩ := List.append_of_mem brace
    cases segment : rest.takeWhile (· != '/') with
    | nil =>
        rw [segment] at split
        simp at split
    | cons first more =>
        -- the segment behind the opening brace is the name, the closing brace and what follows
        rw [segment, List.drop_one, List.tail_cons] at split
        subst split
        have whole : ∀ c ∈ first :: before, c ≠ '/' := by
          intro c among
          have kept : c ∈ rest.takeWhile (· != '/') := by
            rw [segment]
            simp only [List.mem_cons, List.mem_append] at among ⊢
            exact among.imp_right .inl
          simpa using List.mem_takeWhile_imp kept
        refine ⟨first :: before, after ++ rest.dropWhile (· != '/'), List.cons_ne_nil _ _,
          fun slash => whole '/' slash rfl, ?_⟩
        have parts : rest = first :: (before ++ '\x7d' :: after) ++ rest.dropWhile (· != '/') := by
          rw [← segment, List.takeWhile_append_dropWhile]
        rw [behindItemBrace?_eq_some.mp behind]
        exact congrArg (base ++ ['/', '\x7b'] ++ ·) (parts.trans (by simp))
  · rintro ⟨name, rest, filled, whole, split⟩
    refine ⟨_, behindItemBrace?_eq_some.mpr split, ?_⟩
    obtain ⟨first, more, rfl⟩ := List.exists_cons_of_ne_nil filled
    have kept : ∀ c ∈ first :: more ++ ['\x7d'], (c != '/') = true := by
      intro c among
      rw [bne_iff_ne]
      rintro rfl
      rcases List.mem_append.mp among with inside | brace
      · exact whole inside
      · cases List.mem_singleton.mp brace
    rw [List.takeWhile_append_of_pos kept]
    simp

theorem Path.isItem_toList {base path : String} (single : '\n' ∉ path.toList) :
    isItem base.toList path.toList = true ↔ IsItemOf path base := by
  rw [isItem_iff single]
  constructor
  · rintro ⟨name, filled, whole, split⟩
    refine ⟨String.ofList name, ?_, ?_, ?_⟩
    · simpa using filled
    · rwa [String.toList_ofList]
    · rw [← String.toList_inj, split]
      simp
  · rintro ⟨name, filled, whole, rfl⟩
    exact ⟨name.toList, by simpa using filled, whole, by simp⟩

theorem Path.addressesItem_toList {base path : String} :
    addressesItem base.toList path.toList = true ↔ StartsWithItemOf path base := by
  rw [addressesItem_iff]
  constructor
  · rintro ⟨name, rest, filled, whole, split⟩
    refine ⟨String.ofList name, String.ofList rest, ?_, ?_, ?_⟩
    · simpa using filled
    · rwa [String.toList_ofList]
    · rw [← String.toList_inj, split]
      simp
  · rintro ⟨name, rest, filled, whole, rfl⟩
    exact ⟨name.toList, rest.toList, by simpa using filled, whole, by simp⟩

/-! ## Singletons -/

theorem Path.hasPlaceholder_eq_false {path : String} :
    hasPlaceholder path = false ↔ '\x7b' ∉ path.toList := by
  rw [hasPlaceholder, hasChar, List.contains_eq_mem, decide_eq_false_iff_not]

theorem Path.mem_declaredSingletons (single : ∀ name ∈ declared, '\n' ∉ name.toList) {path : String} :
    path ∈ declaredSingletons declared ↔ IsDeclaredSingleton declared path := by
  simp only [declaredSingletons, List.mem_filter, Bool.and_eq_true, Bool.not_eq_true', bne_iff_ne,
    List.any_eq_false, hasPlaceholder_eq_false]
  constructor
  · rintro ⟨among, ⟨plain, notRoot⟩, alone⟩
    refine ⟨among, notRoot, plain, fun other listed item => alone other listed ?_⟩
    exact (isItem_toList (single other listed)).mpr item
  · rintro ⟨among, notRoot, plain, alone⟩
    refine ⟨among, ⟨plain, notRoot⟩, fun other listed item => alone other listed ?_⟩
    exact (isItem_toList (single other listed)).mp item

theorem Path.mem_beginnings {path source : String} : path ∈ beginnings source ↔
    ∃ count, (1 ≤ count ∧ count < (segments source).length) ∧
      (∀ last, (segments source)[count - 1]? = some last → Segment.isVersion last = false) ∧
      path = "/" ++ String.intercalate "/" ((segments source).take count) := by
  have counts (count size : Nat) : count ∈ (List.range size).drop 1 ↔ 1 ≤ count ∧ count < size := by
    rw [List.range_eq_range', List.drop_range', List.mem_range'_1]
    omega
  simp only [beginnings, List.mem_filterMap, counts]
  constructor
  · rintro ⟨count, inside, kept⟩
    obtain ⟨noVersion, shape⟩ := Option.ite_none_left_eq_some.mp kept
    refine ⟨count, inside, fun last here => ?_, (Option.some.inj shape).symm⟩
    rw [here, Option.any_some] at noVersion
    exact Bool.not_eq_true _ ▸ noVersion
  · rintro ⟨count, inside, noVersion, rfl⟩
    refine ⟨count, inside, ?_⟩
    rw [if_neg, ofSegments]
    intro version
    obtain ⟨last, here, version⟩ := (Option.any_eq_true ..).mp version
    rw [noVersion last here] at version
    cases version

theorem Path.mem_undeclaredSingletons {path : String} : path ∈ undeclaredSingletons declared ↔
    ∃ source count, IsUndeclaredSingleton declared path source count := by
  simp only [undeclaredSingletons, List.mem_flatMap, List.mem_filter, Bool.and_eq_true,
    Bool.not_eq_true', List.any_eq_false, List.contains_eq_mem, decide_eq_false_iff_not,
    hasPlaceholder_eq_false, mem_beginnings, addressesItem_toList]
  constructor
  · rintro ⟨source, ⟨among, plain⟩, ⟨count, inside, noVersion, shape⟩, missing, alone⟩
    exact ⟨source, count, missing, among, plain, inside, shape, noVersion, alone⟩
  · rintro ⟨source, count, missing, among, plain, inside, shape, noVersion, alone⟩
    exact ⟨source, ⟨among, plain⟩, ⟨count, inside, noVersion, shape⟩, missing, alone⟩

theorem Path.IsItemOf.startsWith {path base : String} (item : IsItemOf path base) :
    StartsWithItemOf path base := by
  obtain ⟨name, filled, whole, rfl⟩ := item
  exact ⟨name, "", filled, whole, by simp⟩

theorem Members.names?_eq_some {members : Members} (keyed : Members.keys members = declared.map Key.str) :
    Members.names? members = some declared := by
  induction members generalizing declared with
  | nil =>
      cases declared with
      | nil => rfl
      | cons name more => cases keyed
  | cons member rest ih =>
      obtain ⟨key, value⟩ := member
      cases declared with
      | nil => cases keyed
      | cons name more =>
          obtain ⟨rfl, further⟩ := List.cons.inj keyed
          have read := ih further
          rw [Members.names?] at read ⊢
          rw [List.mapM_cons, read]
          rfl

theorem Node.DeclaresPaths.singletons_eq (declares : spec.DeclaresPaths declared) :
    spec.singletons = .ok (Path.singletons declared) := by
  obtain ⟨root, paths, rfl, held, keyed⟩ := declares
  rw [Node.singletons]
  simp only [Node.asObject, bind, Except.bind, held, Members.names?_eq_some keyed]

/-- The singletons of a document are the declared paths without placeholders of which no item is
declared, and the undeclared beginnings of such paths, but for versions, through an item of which
no declared path leads. So no path of which an item is declared is one. -/
theorem singletons_exact (declares : spec.DeclaresPaths declared)
    (single : ∀ name ∈ declared, '\n' ∉ name.toList) :
    ∃ singletons, spec.singletons = .ok singletons ∧
      (∀ path, path ∈ singletons ↔ Path.IsDeclaredSingleton declared path ∨
        ∃ source count, Path.IsUndeclaredSingleton declared path source count) ∧
      ∀ item ∈ declared, ∀ path, Path.IsItemOf item path → path ∉ singletons := by
  have exactly (path : String) : path ∈ Path.singletons declared ↔
      Path.IsDeclaredSingleton declared path ∨
        ∃ source count, Path.IsUndeclaredSingleton declared path source count := by
    rw [Path.singletons, List.mem_eraseDups, List.mem_append, Path.mem_declaredSingletons single,
      Path.mem_undeclaredSingletons]
  refine ⟨_, declares.singletons_eq, exactly, fun item listed path isItem among => ?_⟩
  rcases (exactly path).mp among with inferred | ⟨source, count, inferred⟩
  · exact inferred.alone item listed isItem
  · exact inferred.alone item listed isItem.startsWith

/-- Paths with marks of patterns, repeated and final slashes, and two placeholders side by side. -/
def patternedPaths : List String :=
  ["/", "/a+b", "/aab", "/aab/\x7bid\x7d", "/x//y/", "/v1/q", "/v1/q/\x7ba\x7d\x7bb\x7d/t",
   "/v1/w/s", "/v1/w/\x7ba\x7d\x7bb\x7d/t"]

theorem singletons_exact_marked :
    let spec : Node := .object [(.str "paths",
      .object (patternedPaths.map fun path => (.str path, .object [])))]
    spec.DeclaresPaths patternedPaths ∧ (∀ name ∈ patternedPaths, '\n' ∉ name.toList) ∧
      ∃ singletons, spec.singletons = .ok singletons ∧ "/a+b" ∈ singletons ∧ "/x" ∈ singletons ∧
        "/v1/q" ∈ singletons ∧ "/v1/w" ∉ singletons ∧ "/aab" ∉ singletons := by
  intro spec
  have declares : spec.DeclaresPaths patternedPaths := ⟨_, _, rfl, rfl, rfl⟩
  have single : ∀ name ∈ patternedPaths, '\n' ∉ name.toList := by decide +kernel
  obtain ⟨singletons, inferred, exactly, noCollection⟩ := singletons_exact declares single
  refine ⟨declares, single, singletons, inferred, ?_, ?_, ?_, ?_, ?_⟩
  · exact (exactly _).mpr (.inl ((Path.mem_declaredSingletons single).mp (by decide +kernel)))
  · exact (exactly _).mpr (.inr (Path.mem_undeclaredSingletons.mp (by decide +kernel)))
  · exact (exactly _).mpr (.inl ((Path.mem_declaredSingletons single).mp (by decide +kernel)))
  · intro among
    have through : Path.StartsWithItemOf "/v1/w/\x7ba\x7d\x7bb\x7d/t" "/v1/w" :=
      ⟨"a", "\x7bb\x7d/t", by decide, by decide, by decide +kernel⟩
    rcases (exactly _).mp among with inferred | ⟨source, count, inferred⟩
    · exact absurd inferred.among (by decide)
    · exact inferred.alone _ (by decide) through
  · exact noCollection "/aab/\x7bid\x7d" (by decide) "/aab" ⟨"id", by decide, by decide, by decide +kernel⟩

end ApiReview
