/-
This file shows on which line a diagnostic about the value of a frontmatter key is put. A key may
stand on several lines. YAML takes its last value, while the line that is noted for it is the first
one, so a diagnostic points at the value that it judges only where both lines give the same value.
-/

import LlmTxt.Proofs.Frontmatter.Defects
import LlmTxt.Proofs.Frontmatter.Keys
import LlmTxt.Proofs.Source
import Mathlib.Data.List.Nodup

namespace LlmTxt.Frontmatter

open Text

variable {source : Source} {body : List Line} {line : Line} {key value : String}
  {entries : List (String × String)}

/-! ### Blocks of keys and texts -/

/-- YAML reads a block as a mapping of the keys that begin its lines, in which the last value of a
key counts, up to blanks around it. -/
structure LoadsLastValues (body : List Line) (entries : List (String × String)) : Prop where
  loads : load body = .ok (some (.mapping (textPairs entries)))
  keys : ∀ entry ∈ entries, ∃ line ∈ body, line.BeginsWith entry.1
  last : ∀ line key value, IsLast body line key value →
    ∃ content, entries.lookup key = some content ∧ String.ofList (trim content.toList) = value

/-- The frontmatter of a block that is a mapping of keys and texts. -/
def ofEntries (body : List Line) (entries : List (String × String)) (closing : Nat) :
    Frontmatter :=
  Content.toFrontmatter ⟨textPairs entries, none, none⟩ body closing

theorem LoadsLastValues.ofLines_eq (loaded : LoadsLastValues body entries) (closing : Nat) :
    ofLines body closing = .ok (ofEntries body entries closing) := by
  refine ofLines_eq_ok_iff_content.mpr ⟨_, ?_, rfl⟩
  rw [loaded.loads]
  rfl

/-- The last line of a key is the first one from behind. -/
theorem isFirst_reverse_iff : IsFirst body.reverse line key value ↔ IsLast body line key value := by
  constructor
  · rintro ⟨gives, before, after, cut, without⟩
    refine ⟨gives, after.reverse, before.reverse, ?_, fun later member => ?_⟩
    · rw [← body.reverse_reverse, cut, List.reverse_append, List.reverse_cons, List.append_assoc]
      rfl
    · exact without later (List.mem_reverse.mp member)
  · rintro ⟨gives, before, after, rfl, without⟩
    refine ⟨gives, after.reverse, before.reverse, ?_, fun later member => ?_⟩
    · rw [List.reverse_append, List.reverse_cons, List.append_assoc]
      rfl
    · exact without later (List.mem_reverse.mp member)

/-- A key that a line begins with has a last line. -/
theorem exists_isLast (member : line ∈ body) (begins : line.BeginsWith key) :
    ∃ last value, IsLast body last key value := by
  obtain ⟨last, value, isFirst⟩ := exists_isFirst (List.mem_reverse.mpr member) begins
  exact ⟨last, value, isFirst_reverse_iff.mp isFirst⟩

/-- The value of a key is that of its last line. -/
theorem LoadsLastValues.get?_eq (loaded : LoadsLastValues body entries)
    (known : key ∈ recognizedKeys) (last : IsLast body line key value) (closing : Nat) :
    (ofEntries body entries closing).get? key = some value := by
  obtain ⟨content, found, rfl⟩ := loaded.last line key value last
  have pair : (textPairs entries).lookup key = some (.text content) := by
    rw [lookup_textPairs, found]
    rfl
  exact lookup_entriesOf known pair

/-- A key that holds a text begins a line. -/
theorem LoadsLastValues.exists_line (loaded : LoadsLastValues body entries) {closing : Nat}
    (present : (ofEntries body entries closing).get? key = some value) :
    ∃ line ∈ body, line.BeginsWith key := by
  by_contra without
  have absent : (textPairs entries).lookup key = none := by
    have unknown : entries.lookup key = none := by
      refine List.lookup_eq_none_iff.mpr fun entry member => bne_iff_ne.mpr ?_
      rintro rfl
      exact without (loaded.keys entry member)
    rw [lookup_textPairs, unknown]
    rfl
  have nothing : (ofEntries body entries closing).get? key = none := lookup_entriesOf_eq_none absent
  rw [nothing] at present
  cases present

/-! ### The line of a value -/

/-- The line that is noted for a key gives it the value that the frontmatter holds. -/
def PointsAtValue (frontmatter : Frontmatter) (body : List Line) (key : String) : Prop :=
  ∃ line ∈ body, frontmatter.spanOf key = .line line.number ∧
    ∃ value, frontmatter.get? key = some value ∧ line.Gives key value

theorem IsFirst.spanOf_eq (first : IsFirst body line key value)
    (entries : List (String × String)) (closing : Nat) :
    (ofEntries body entries closing).spanOf key = .line line.number := by
  unfold spanOf
  have noted : (ofEntries body entries closing).keyLines.lookup key = some line.number :=
    first.lookup_linesOfKeys
  rw [noted]

/-- No two lines of a text have one number. -/
theorem eq_of_number_eq (within : body.Sublist source.lines) {other : Line} (member : line ∈ body)
    (again : other ∈ body) (same : line.number = other.number) : line = other := by
  have distinct : (source.lines.map Line.number).Nodup := by
    rw [source.map_number_lines]
    exact List.nodup_range'
  exact List.inj_on_of_nodup_map distinct (within.subset member) (within.subset again) same

/-- The first line of a key alone is noted for it. -/
theorem IsFirst.pointsAtValue_iff (first : IsFirst body line key value)
    (within : body.Sublist source.lines) {closing : Nat} {held : String}
    (present : (ofEntries body entries closing).get? key = some held) :
    (ofEntries body entries closing).PointsAtValue body key ↔ value = held := by
  constructor
  · rintro ⟨other, inBody, noted, own, found, gives⟩
    rw [first.spanOf_eq] at noted
    have number : line.number = other.number := congrArg Span.first noted
    have same : line = other := eq_of_number_eq within first.mem inBody number
    rw [present] at found
    rw [Option.some.inj found]
    exact first.gives.unique (same ▸ gives)
  · rintro rfl
    exact ⟨line, first.mem, first.spanOf_eq entries closing, value, present, first.gives⟩

/-- The values of a block of keys and texts are those of the last lines of the keys, and what is
wrong with them is put on the first lines. So a diagnostic points at the value that it judges if and
only if the first line of the key gives the same value as the last. -/
theorem points_at_value_iff_first_line_agrees (within : body.Sublist source.lines)
    (loaded : LoadsLastValues body entries) (closing : Nat) :
    ∃ frontmatter, ofLines body closing = .ok frontmatter ∧
      ∀ key ∈ recognizedKeys,
        ((frontmatter.get? key).isSome = true ↔ ∃ line ∈ body, line.BeginsWith key) ∧
        ∀ value, frontmatter.get? key = some value →
          ∃ first firstValue last,
            IsFirst body first key firstValue ∧ IsLast body last key value ∧
            frontmatter.spanOf key = .line first.number ∧
            (∀ accepted, ∀ defect ∈ defects (some frontmatter) accepted,
              defect.judgedKey? = some key → defect.diagnostic.span = .line first.number) ∧
            (frontmatter.PointsAtValue body key ↔ firstValue = value) := by
  refine ⟨_, loaded.ofLines_eq closing, fun key known => ⟨?_, ?_⟩⟩
  · rw [Option.isSome_iff_exists]
    constructor
    · rintro ⟨value, present⟩
      exact loaded.exists_line present
    · rintro ⟨line, member, begins⟩
      obtain ⟨last, value, isLast⟩ := exists_isLast member begins
      exact ⟨value, loaded.get?_eq known isLast closing⟩
  · intro value present
    obtain ⟨line, member, begins⟩ := loaded.exists_line present
    obtain ⟨first, firstValue, isFirst⟩ := exists_isFirst member begins
    obtain ⟨last, lastValue, isLast⟩ := exists_isLast member begins
    have same : value = lastValue := by
      rw [loaded.get?_eq known isLast closing] at present
      exact (Option.some.inj present).symm
    have noted := isFirst.spanOf_eq entries closing
    refine ⟨first, firstValue, last, isFirst, same ▸ isLast, noted, ?_,
      isFirst.pointsAtValue_iff within present⟩
    intro accepted defect inDefects judges
    exact ((mem_defects_iff.mp inDefects).span_eq judges).trans noted

/-- A text with a block in which the language stands twice. -/
def repeatedText : String :=
  "---\npackage: p\nversion: 1.0\nlanguage: python\nlanguage: c\nsummary: s\n---\n"

/-- The block of this text. -/
def repeatedBody : List Line :=
  [⟨2, 4, "package: p".toList⟩, ⟨3, 15, "version: 1.0".toList⟩, ⟨4, 28, "language: python".toList⟩,
    ⟨5, 45, "language: c".toList⟩, ⟨6, 57, "summary: s".toList⟩]

def repeatedEntries : List (String × String) :=
  [("package", "p"), ("version", "1.0"), ("language", "c"), ("summary", "s")]

/-- The texts of pairs that hold nothing else. -/
def textsOf? : List (String × Yaml.Value) → Option (List (String × String))
  | [] => some []
  | (key, .text content) :: rest => (textsOf? rest).map fun entries => (key, content) :: entries
  | _ :: _ => none

theorem eq_textPairs_of_textsOf?_eq_some {pairs : List (String × Yaml.Value)}
    (found : textsOf? pairs = some entries) : pairs = textPairs entries := by
  fun_induction textsOf? pairs generalizing entries with
  | case1 =>
    cases found
    rfl
  | case2 key content rest inductionHypothesis =>
    obtain ⟨others, same, rfl⟩ := Option.map_eq_some_iff.mp found
    rw [inductionHypothesis same]
    rfl
  | case3 => cases found

/-- The texts of a block that YAML reads as a mapping of nothing else. -/
def loadedTexts? : Except Yaml.Failure (Option Yaml.Value) → Option (List (String × String))
  | .ok (some (.mapping pairs)) => textsOf? pairs
  | _ => none

theorem eq_mapping_of_loadedTexts?_eq_some {loaded : Except Yaml.Failure (Option Yaml.Value)}
    (found : loadedTexts? loaded = some entries) :
    loaded = .ok (some (.mapping (textPairs entries))) := by
  unfold loadedTexts? at found
  split at found
  · rw [eq_textPairs_of_textsOf?_eq_some found]
  · cases found

theorem loadsLastValues_repeated : LoadsLastValues repeatedBody repeatedEntries := by
  have loads : load repeatedBody = .ok (some (.mapping (textPairs repeatedEntries))) :=
    eq_mapping_of_loadedTexts?_eq_some (by decide +kernel)
  have keys : ∀ entry ∈ repeatedEntries,
      ∃ line ∈ repeatedBody, (line.given?.map Prod.fst) = some entry.1 := by decide +kernel
  have values : ∀ entry ∈ scan (fun _ value => value) repeatedBody.reverse,
      (scan (fun _ value => value) repeatedBody.reverse).lookup entry.1 = some entry.2 →
        (repeatedEntries.lookup entry.1).map (fun content => String.ofList (trim content.toList)) =
          some entry.2 := by decide +kernel
  refine ⟨loads, fun entry member => ?_, fun line key value last => ?_⟩
  · obtain ⟨line, inBody, begins⟩ := keys entry member
    obtain ⟨⟨name, value⟩, given, rfl⟩ := Option.map_eq_some_iff.mp begins
    exact ⟨line, inBody, value, Line.given?_eq_some_iff.mp given⟩
  · have first := isFirst_reverse_iff.mpr last
    have inScan : (key, value) ∈ scan (fun _ value => value) repeatedBody.reverse :=
      mem_scan.mpr ⟨line, first.mem, value, first.gives, rfl⟩
    exact Option.map_eq_some_iff.mp (values _ inScan (first.lookup_scan _))

theorem repeatedBody_sublist : repeatedBody.Sublist (Source.ofString repeatedText).lines := by
  have cut : repeatedBody = ((Source.ofString repeatedText).lines.drop 1).take 5 := by
    decide +kernel
  rw [cut]
  exact (List.take_sublist _ _).trans (List.drop_sublist _ _)

theorem points_at_value_iff_first_line_agrees_of_repeated :
    repeatedBody.Sublist (Source.ofString repeatedText).lines ∧
    LoadsLastValues repeatedBody repeatedEntries ∧
    ∃ frontmatter, ofLines repeatedBody 7 = .ok frontmatter ∧
      ∀ key ∈ recognizedKeys,
        ((frontmatter.get? key).isSome = true ↔ ∃ line ∈ repeatedBody, line.BeginsWith key) ∧
        ∀ value, frontmatter.get? key = some value →
          ∃ first firstValue last,
            IsFirst repeatedBody first key firstValue ∧ IsLast repeatedBody last key value ∧
            frontmatter.spanOf key = .line first.number ∧
            (∀ accepted, ∀ defect ∈ defects (some frontmatter) accepted,
              defect.judgedKey? = some key → defect.diagnostic.span = .line first.number) ∧
            (frontmatter.PointsAtValue repeatedBody key ↔ firstValue = value) :=
  ⟨repeatedBody_sublist, loadsLastValues_repeated,
    points_at_value_iff_first_line_agrees repeatedBody_sublist loadsLastValues_repeated 7⟩

/-- The second language of this block is refused, and the refusal is put on the first one. -/
theorem refused_language_is_put_on_accepted_one :
    LoadsLastValues repeatedBody repeatedEntries ∧
    ∃ frontmatter, ofLines repeatedBody 7 = .ok frontmatter ∧
      (Defect.unexpectedLanguage "c" ["python"] (.line 4)).diagnostic ∈
        check (some frontmatter) ["python"] ∧
      ¬ frontmatter.PointsAtValue repeatedBody "language" := by
  refine ⟨loadsLastValues_repeated, _, loadsLastValues_repeated.ofLines_eq 7, by decide +kernel, ?_⟩
  have first : IsFirst repeatedBody ⟨4, 28, "language: python".toList⟩ "language" "python" := by
    refine ⟨Line.given?_eq_some_iff.mp (by decide +kernel),
      [⟨2, 4, "package: p".toList⟩, ⟨3, 15, "version: 1.0".toList⟩],
      [⟨5, 45, "language: c".toList⟩, ⟨6, 57, "summary: s".toList⟩], rfl, ?_⟩
    rintro earlier member ⟨value, gives⟩
    have other : ∀ line ∈ [(⟨2, 4, "package: p".toList⟩ : Line), ⟨3, 15, "version: 1.0".toList⟩],
        line.given?.map Prod.fst ≠ some "language" := by decide +kernel
    refine other earlier member ?_
    rw [Line.given?_eq_some_iff.mpr gives]
    rfl
  have present : (ofEntries repeatedBody repeatedEntries 7).get? "language" = some "c" := by
    decide +kernel
  rw [first.pointsAtValue_iff repeatedBody_sublist present]
  decide

end LlmTxt.Frontmatter
