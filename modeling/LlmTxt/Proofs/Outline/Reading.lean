/-
This file follows the reading of an outline as a relation: lines are read from one state to another
without a problem. A problem that has been noted is never taken back, so lines are read in this way
if and only if each of them is. So each line can be told on its own, and in both directions at once:
what it has to be, and what it then does to the state. Blank lines do nothing, and there can be no
line of code.
-/

import LlmTxt.Proofs.Outline.Bullets
import LlmTxt.Proofs.Outline.Spans

namespace LlmTxt

open Text

/-! ### Lines -/

/-- A line on which something stands, outside code. -/
structure SourceLine.IsFilled (line : SourceLine) : Prop where
  noCode : line.inCode = false
  noBlank : line.isBlank = false

/-- A line of text that is no list item. -/
structure TextLine where
  line : SourceLine
  filled : line.IsFilled
  noBullet : ∀ bullet, ¬Bullet.IsWritten line.text.toList bullet

/-- A line that is a list item. -/
structure BulletLine where
  line : SourceLine
  bullet : Bullet
  filled : line.IsFilled
  isBullet : Bullet.IsWritten line.text.toList bullet

/-! ### Reading without a problem -/

theorem toList_modify_last {Element : Type} {elements : Array Element} {front : List Element}
    {last : Element} (split : elements.toList = front ++ [last]) (change : Element → Element) :
    (elements.modify (elements.size - 1) change).toList = front ++ [change last] := by
  have size : elements.size - 1 = front.length := by
    rw [← Array.length_toList, split, List.length_append, List.length_singleton,
      Nat.add_sub_cancel]
  rw [Array.toList_modify, size, split]
  clear split size
  induction front with
  | nil => rfl
  | cons first rest inductionHypothesis =>
    rw [List.cons_append, List.length_cons, List.modify_succ_cons, inductionHypothesis]
    rfl

namespace OutlineReading

variable {reading next last : OutlineReading} {line : SourceLine}

theorem addToLast_concat (tokens : List OutlineToken) (front : List OutlineCategory)
    (last : OutlineCategory) :
    addToLast tokens (front ++ [last]) =
      front ++ [{ last with tokens := last.tokens ++ tokens }] := by
  induction front with
  | nil => rfl
  | cons first rest inductionHypothesis =>
    cases rest with
    | nil => rfl
    | cons next more => exact congrArg (first :: ·) inductionHypothesis

/-- No problem has been noted. -/
def IsClean (reading : OutlineReading) : Prop :=
  reading.problems = #[]

theorem not_isClean_note (reading : OutlineReading) (number : Nat) (fault : OutlineFault) :
    ¬(reading.note number fault).IsClean :=
  Array.push_ne_empty

/-- Reading the symbols of a category takes no problem back. -/
theorem IsClean.of_readTokens {number : Nat} {text : List Char}
    (clean : (reading.readTokens number text).IsClean) : reading.IsClean :=
  (Array.append_eq_empty_iff.mp clean).1

theorem IsClean.of_readCategory {number : Nat} {content : List Char}
    (clean : (reading.readCategory number content).IsClean) : reading.IsClean := by
  unfold readCategory at clean
  split at clean
  · exact absurd clean (not_isClean_note _ _ _)
  · dsimp only at clean
    split at clean
    · exact absurd clean (not_isClean_note _ _ _)
    · exact clean.of_readTokens

theorem IsClean.of_readBullet {number : Nat} {bullet : Bullet}
    (clean : (reading.readBullet number bullet).IsClean) : reading.IsClean := by
  unfold readBullet at clean
  dsimp only at clean
  split at clean
  · unfold readModule at clean
    dsimp only at clean
    split at clean
    · exact absurd clean (not_isClean_note _ _ _)
    · split at clean
      · exact clean
      · exact absurd clean (not_isClean_note _ _ _)
  · unfold readInner at clean
    split at clean
    · exact absurd clean (not_isClean_note _ _ _)
    · split at clean
      · exact clean.of_readCategory
      · split at clean
        · exact absurd clean (not_isClean_note _ _ _)
        · exact clean.of_readCategory

theorem IsClean.of_readText {number : Nat} {text : List Char}
    (clean : (reading.readText number text).IsClean) : reading.IsClean := by
  unfold readText at clean
  split at clean
  · exact clean
  · split at clean
    · split at clean
      · exact clean.of_readTokens
      · exact clean
    · exact absurd clean (not_isClean_note _ _ _)

/-- A problem that has been noted is never taken back. -/
theorem IsClean.of_readLine (clean : (reading.readLine line).IsClean) : reading.IsClean := by
  unfold readLine at clean
  split at clean
  · unfold readCode at clean
    split at clean
    · exact clean
    · exact absurd clean (not_isClean_note _ _ _)
  · dsimp only at clean
    split at clean
    · exact clean
    · split at clean
      · exact clean.of_readBullet
      · exact clean.of_readText

theorem IsClean.of_foldl {lines : List SourceLine}
    (clean : (lines.foldl readLine reading).IsClean) : reading.IsClean := by
  induction lines generalizing reading with
  | nil => exact clean
  | cons line rest inductionHypothesis => exact (inductionHypothesis clean).of_readLine

/-- Lines are read from one state to another, and no problem is noted. -/
structure Reads (reading : OutlineReading) (lines : List SourceLine) (last : OutlineReading) :
    Prop where
  run : lines.foldl readLine reading = last
  clean : last.IsClean

theorem reads_nil_iff (clean : reading.IsClean) : reading.Reads [] last ↔ last = reading := by
  constructor
  · rintro ⟨rfl, _⟩
    rfl
  · rintro rfl
    exact ⟨rfl, clean⟩

theorem reads_append_iff {front back : List SourceLine} :
    reading.Reads (front ++ back) last ↔
      ∃ next, reading.Reads front next ∧ next.Reads back last := by
  constructor
  · rintro ⟨run, clean⟩
    rw [List.foldl_append] at run
    refine ⟨_, ⟨rfl, ?_⟩, run, clean⟩
    exact IsClean.of_foldl (run ▸ clean)
  · rintro ⟨next, ⟨rfl, _⟩, ⟨run, clean⟩⟩
    exact ⟨by rw [List.foldl_append, run], clean⟩

theorem reads_cons_iff {rest : List SourceLine} :
    reading.Reads (line :: rest) last ↔
      ∃ next, reading.Reads [line] next ∧ next.Reads rest last := by
  rw [← List.singleton_append, reads_append_iff]

/-- The state of reading behind the first list item, if no problem has been noted. -/
def opened (modules : List OutlineModule) (base : Nat) (categoryIndent : Option Nat)
    (inModule inCategory : Bool) : OutlineReading :=
  ⟨modules.toArray, #[], some base, categoryIndent, inModule, inCategory, false⟩

theorem isClean_opened (modules : List OutlineModule) (base : Nat) (categoryIndent : Option Nat)
    (inModule inCategory : Bool) :
    (opened modules base categoryIndent inModule inCategory).IsClean := rfl

theorem reads_singleton_iff :
    reading.Reads [line] last ↔ reading.readLine line = last ∧ last.IsClean :=
  ⟨fun reads => ⟨reads.run, reads.clean⟩, fun both => ⟨both.1, both.2⟩⟩

end OutlineReading

/-! ### What lines say -/

/-- How far a line of text is indented. -/
def TextLine.indent (text : TextLine) : Nat :=
  proseIndent text.line.text.toList

/-- A line of text lists symbols, and nothing else. -/
def TextLine.Lists (text : TextLine) (tokens : List OutlineToken) : Prop :=
  OutlineToken.listed text.line.text.toList text.line.number = (tokens, [])

/-- A list item begins a category with the symbols that it lists itself. -/
structure BulletLine.Begins (head : BulletLine) (category : OutlineCategory) : Prop where
  line_eq : category.line = head.line.number
  labelled : ∃ found rest, Bullet.category? head.bullet.content = some (found, rest) ∧
    category.label = String.ofList (trim found) ∧
    Bullet.categoryKind? (trim found) = some category.kind ∧
    OutlineToken.listed rest head.line.number = (category.tokens, [])

/-- A list item names a module that lists nothing yet. -/
def BulletLine.Opens (head : BulletLine) (module : OutlineModule) : Prop :=
  Bullet.moduleName? head.bullet.content = some (module.name.toList, true) ∧
    module.formatted = true ∧ module.line = head.line.number ∧ module.categories = []

namespace OutlineReading

variable {last : OutlineReading} {modules front : List OutlineModule} {module : OutlineModule}
  {base : Nat} {categoryIndent : Option Nat} {inModule inCategory : Bool}

theorem readLine_text (reading : OutlineReading) (text : TextLine) :
    reading.readLine text.line =
      { reading with inCode := false }.readText text.line.number text.line.text.toList := by
  unfold readLine
  rw [text.filled.noCode, text.filled.noBlank, Bullet.ofLine?_eq_none_iff.mpr text.noBullet]
  rfl

theorem readLine_bullet (reading : OutlineReading) (head : BulletLine) :
    reading.readLine head.line =
      { reading with inCode := false }.readBullet head.line.number head.bullet := by
  unfold readLine
  rw [head.filled.noCode, head.filled.noBlank, Bullet.ofLine?_eq_some_iff.mpr head.isBullet]
  rfl

theorem modifyModule_opened (change : OutlineModule → OutlineModule) :
    (opened (front ++ [module]) base categoryIndent inModule inCategory).modifyModule change =
      opened (front ++ [change module]) base categoryIndent inModule inCategory := by
  unfold modifyModule opened
  dsimp only
  have split : (front ++ [module]).toArray.toList = front ++ [module] := rfl
  rw [← toList_modify_last split change]

theorem readTokens_opened (number : Nat) (text : List Char) :
    (opened (front ++ [module]) base categoryIndent inModule inCategory).readTokens number text =
      { opened (front ++ [{ module with
          categories := addToLast (OutlineToken.listed text number).1 module.categories }])
          base categoryIndent inModule inCategory with
        problems := (OutlineToken.listed text number).2.toArray } := by
  unfold readTokens modifyModule opened
  dsimp only
  have split : (front ++ [module]).toArray.toList = front ++ [module] := rfl
  rw [← toList_modify_last split fun module => { module with
    categories := addToLast (OutlineToken.listed text number).1 module.categories },
    Array.empty_append]

theorem eq_and_isClean_iff {kept : OutlineReading} (clean : kept.IsClean) :
    (kept = last ∧ last.IsClean) ↔ last = kept := by
  constructor
  · exact fun both => both.1.symm
  · rintro rfl
    exact ⟨rfl, clean⟩

/-- Where the other way would note a problem, a condition has to hold. -/
theorem ite_note_iff {condition : Prop} [Decidable condition] {kept other : OutlineReading}
    {number : Nat} {fault : OutlineFault} :
    ((if condition then kept else other.note number fault) = last ∧ last.IsClean) ↔
      condition ∧ kept = last ∧ last.IsClean := by
  by_cases holds : condition
  · rw [if_pos holds, and_iff_right holds]
  · rw [if_neg holds]
    refine ⟨?_, fun said => absurd said.1 holds⟩
    rintro ⟨rfl, clean⟩
    exact absurd clean (not_isClean_note _ _ _)

/-- The symbols of a text go to the last category. -/
theorem readTokens_iff {categories : List OutlineCategory} {category : OutlineCategory}
    {number : Nat} {text : List Char} :
    ((opened (front ++ [{ module with categories := categories ++ [category] }]) base
        categoryIndent inModule inCategory).readTokens number text = last ∧ last.IsClean) ↔
      ∃ tokens, OutlineToken.listed text number = (tokens, []) ∧
        last = opened (front ++ [{ module with
          categories := categories ++ [{ category with tokens := category.tokens ++ tokens }] }])
          base categoryIndent inModule inCategory := by
  rw [readTokens_opened]
  dsimp only
  rw [addToLast_concat]
  constructor
  · rintro ⟨rfl, clean⟩
    have noProblem : (OutlineToken.listed text number).2 = [] := congrArg Array.toList clean
    refine ⟨(OutlineToken.listed text number).1, Prod.ext rfl noProblem, ?_⟩
    rw [noProblem]
    rfl
  · rintro ⟨tokens, listed, rfl⟩
    rw [listed]
    exact ⟨rfl, rfl⟩

theorem readLine_text_opened (text : TextLine) :
    (opened modules base categoryIndent inModule inCategory).readLine text.line =
      if base < text.indent then
        if inCategory then
          (opened modules base categoryIndent inModule inCategory).readTokens text.line.number
            (trim text.line.text.toList)
        else opened modules base categoryIndent inModule inCategory
      else (opened modules base categoryIndent inModule inCategory).note text.line.number
        (.unexpectedText (String.ofList (trim text.line.text.toList))) :=
  readLine_text _ text

theorem readLine_bullet_opened (head : BulletLine) :
    (opened modules base categoryIndent inModule inCategory).readLine head.line =
      if head.bullet.indent ≤ base then
        (opened modules base categoryIndent inModule inCategory).readModule head.line.number
          head.bullet.content
      else (opened modules base categoryIndent inModule inCategory).readInner head.line.number
        head.bullet :=
  readLine_bullet _ head

/-- Text under the item of a module has to be indented, and is passed over. -/
theorem reads_text_iff {text : TextLine} :
    (opened modules base categoryIndent inModule false).Reads [text.line] last ↔
      base < text.indent ∧ last = opened modules base categoryIndent inModule false := by
  rw [reads_singleton_iff, readLine_text_opened, ite_note_iff, if_neg Bool.false_ne_true,
    eq_and_isClean_iff (isClean_opened _ _ _ _ _)]

/-- Text under the item of a category has to be indented, and lists more of its symbols. -/
theorem reads_tokens_iff {text : TextLine} {categories : List OutlineCategory}
    {category : OutlineCategory} :
    (opened (front ++ [{ module with categories := categories ++ [category] }]) base categoryIndent
        inModule true).Reads [text.line] last ↔
      base < text.indent ∧ ∃ tokens, text.Lists tokens ∧
        last = opened (front ++ [{ module with
          categories := categories ++ [{ category with tokens := category.tokens ++ tokens }] }])
          base categoryIndent inModule true := by
  rw [reads_singleton_iff, readLine_text_opened, ite_note_iff, if_pos rfl, readTokens_iff,
    OutlineToken.listed_trim]
  rfl

/-- A list item that is not indented further than the first adds a module. -/
theorem reads_module_iff {head : BulletLine} (above : head.bullet.indent ≤ base) :
    (opened modules base categoryIndent inModule inCategory).Reads [head.line] last ↔
      ∃ module, head.Opens module ∧ last = opened (modules ++ [module]) base none true false := by
  rw [reads_singleton_iff, readLine_bullet_opened, if_pos above]
  unfold readModule BulletLine.Opens
  dsimp only
  split
  · rename_i noName
    constructor
    · rintro ⟨rfl, clean⟩
      exact absurd clean (not_isClean_note _ _ _)
    · rintro ⟨module, ⟨found, _⟩, _⟩
      rw [noName] at found
      cases found
  · rename_i name formatted found
    cases formatted with
    | false =>
      constructor
      · rintro ⟨rfl, clean⟩
        exact absurd clean (not_isClean_note _ _ _)
      · rintro ⟨module, ⟨other, _⟩, _⟩
        rw [found] at other
        cases other
    | true =>
      constructor
      · rintro ⟨rfl, _⟩
        refine ⟨⟨String.ofList name, head.line.number, true, []⟩, ⟨?_, rfl, rfl, rfl⟩, ?_⟩
        · rw [found, String.toList_ofList]
        · rw [if_pos rfl, opened, List.push_toArray]
          rfl
      · rintro ⟨⟨_, _, _, _⟩, ⟨other, formatted, line, categories⟩, rfl⟩
        cases formatted
        cases line
        cases categories
        rw [found] at other
        obtain ⟨rfl, _⟩ := Prod.mk.inj (Option.some.inj other)
        rw [if_pos rfl, opened, List.push_toArray, String.ofList_toList]
        exact ⟨rfl, rfl⟩

/-- Reading a category adds it to the last module. -/
theorem readCategory_iff {head : BulletLine} :
    ((opened (front ++ [module]) base categoryIndent inModule inCategory).readCategory
        head.line.number head.bullet.content = last ∧ last.IsClean) ↔
      ∃ category, head.Begins category ∧
        last = opened (front ++ [{ module with categories := module.categories ++ [category] }])
          base categoryIndent inModule true := by
  unfold readCategory
  split
  · rename_i noCategory
    constructor
    · rintro ⟨rfl, clean⟩
      exact absurd clean (not_isClean_note _ _ _)
    · rintro ⟨category, begins, _⟩
      obtain ⟨found, rest, read, _⟩ := begins.labelled
      rw [noCategory] at read
      cases read
  · rename_i found rest read
    dsimp only
    split
    · rename_i noKind
      constructor
      · rintro ⟨rfl, clean⟩
        exact absurd clean (not_isClean_note _ _ _)
      · rintro ⟨category, begins, _⟩
        obtain ⟨other, more, same, _, kind, _⟩ := begins.labelled
        rw [read] at same
        cases same
        rw [noKind] at kind
        cases kind
    · rename_i kind known
      rw [modifyModule_opened]
      refine readTokens_iff.trans ?_
      constructor
      · rintro ⟨tokens, listed, rfl⟩
        exact ⟨⟨_, kind, head.line.number, tokens⟩, ⟨rfl, found, rest, read, rfl, known, listed⟩,
          rfl⟩
      · rintro ⟨⟨_, _, _, tokens⟩, ⟨line, other, more, same, label, otherKind, listed⟩, rfl⟩
        rw [read] at same
        cases same
        cases label
        cases line
        cases known.symm.trans otherKind
        exact ⟨tokens, listed, rfl⟩

/-- A list item that is indented further than the first adds a category, and may not be indented
further than the first category of its module. -/
theorem reads_category_iff {head : BulletLine} (below : base < head.bullet.indent) :
    (opened (front ++ [module]) base categoryIndent true inCategory).Reads [head.line] last ↔
      (∀ limit ∈ categoryIndent, head.bullet.indent ≤ limit) ∧ ∃ category, head.Begins category ∧
        last = opened (front ++ [{ module with categories := module.categories ++ [category] }])
          base (some (categoryIndent.getD head.bullet.indent)) true true := by
  rw [reads_singleton_iff, readLine_bullet_opened, if_neg (Nat.not_le.mpr below)]
  unfold readInner
  rw [if_neg (by simp [opened])]
  cases categoryIndent with
  | none =>
    have unlimited : ∀ limit ∈ (none : Option Nat), head.bullet.indent ≤ limit := by rintro _ ⟨⟩
    rw [and_iff_right unlimited]
    exact readCategory_iff
  | some limit =>
    have turned : ((if limit < head.bullet.indent then
        (opened (front ++ [module]) base (some limit) true inCategory).note head.line.number
          .tooDeep
        else (opened (front ++ [module]) base (some limit) true inCategory).readCategory
          head.line.number head.bullet.content) = last ∧ last.IsClean) ↔
        head.bullet.indent ≤ limit ∧
          (opened (front ++ [module]) base (some limit) true inCategory).readCategory
            head.line.number head.bullet.content = last ∧ last.IsClean := by
      rw [← Nat.not_lt, ← ite_note_iff, ite_not]
    refine turned.trans ?_
    rw [readCategory_iff]
    simp

end OutlineReading

/-! ### Blank lines and code -/

namespace OutlineReading

variable {reading last : OutlineReading}

theorem inCode_readCategory (number : Nat) (content : List Char) :
    (reading.readCategory number content).inCode = reading.inCode := by
  unfold readCategory
  split
  · rfl
  · dsimp only
    split <;> rfl

theorem inCode_readBullet (number : Nat) (bullet : Bullet) :
    (reading.readBullet number bullet).inCode = reading.inCode := by
  unfold readBullet
  dsimp only
  split
  · unfold readModule
    dsimp only
    split
    · rfl
    · split <;> rfl
  · unfold readInner
    split
    · rfl
    · split
      · exact inCode_readCategory _ _
      · split
        · rfl
        · exact inCode_readCategory _ _

theorem inCode_readText (number : Nat) (text : List Char) :
    (reading.readText number text).inCode = reading.inCode := by
  unfold readText
  split
  · rfl
  · split
    · split <;> rfl
    · rfl

/-- Behind a line that is not code, the line before is not code. -/
theorem inCode_readLine {line : SourceLine} (noCode : line.inCode = false) :
    (reading.readLine line).inCode = false := by
  unfold readLine
  rw [if_neg (by rw [noCode]; exact Bool.false_ne_true)]
  dsimp only
  split
  · rfl
  · split
    · exact inCode_readBullet _ _
    · exact inCode_readText _ _

/-- A line of code behind one that is not is a problem. -/
theorem not_isClean_readLine_of_code (outside : reading.inCode = false) {line : SourceLine}
    (code : line.inCode = true) : ¬(reading.readLine line).IsClean := by
  unfold readLine readCode
  rw [if_pos code, outside]
  exact not_isClean_note _ _ _

theorem readLine_of_isBlank (outside : reading.inCode = false) {line : SourceLine}
    (noCode : line.inCode = false) (blank : line.isBlank = true) :
    reading.readLine line = reading := by
  obtain ⟨_, _, _, _, _, _, _⟩ := reading
  cases outside
  unfold readLine
  rw [noCode, blank]
  rfl

/-- Lines are read without a problem if and only if there is no code among them, and those that are
not blank are read so. -/
theorem reads_filter_iff {lines : List SourceLine} (outside : reading.inCode = false) :
    reading.Reads lines last ↔ (∀ line ∈ lines, line.inCode = false) ∧
      reading.Reads (lines.filter (!·.isBlank)) last := by
  induction lines generalizing reading with
  | nil => simp
  | cons line rest inductionHypothesis =>
    rw [List.forall_mem_cons]
    cases code : line.inCode with
    | true =>
      constructor
      · rintro ⟨rfl, clean⟩
        rw [List.foldl_cons] at clean
        exact absurd (IsClean.of_foldl clean) (not_isClean_readLine_of_code outside code)
      · rintro ⟨⟨⟨⟩, _⟩, _⟩
    | false =>
      rw [eq_self_iff_true, true_and]
      cases blank : line.isBlank with
      | true =>
        have dropped : reading.Reads (line :: rest) last ↔ reading.Reads rest last := by
          constructor
          · rintro ⟨run, clean⟩
            rw [List.foldl_cons, readLine_of_isBlank outside code blank] at run
            exact ⟨run, clean⟩
          · rintro ⟨run, clean⟩
            refine ⟨?_, clean⟩
            rw [List.foldl_cons, readLine_of_isBlank outside code blank, run]
        rw [dropped, List.filter_cons_of_neg (by rw [blank]; decide)]
        exact inductionHypothesis outside
      | false =>
        rw [List.filter_cons_of_pos (by rw [blank]; rfl), reads_cons_iff, reads_cons_iff,
          ← exists_and_left]
        refine exists_congr fun next => ?_
        constructor
        · rintro ⟨own, more⟩
          have behind : next.inCode = false := own.run ▸ inCode_readLine code
          obtain ⟨others, reads⟩ := (inductionHypothesis behind).mp more
          exact ⟨others, own, reads⟩
        · rintro ⟨others, own, reads⟩
          have behind : next.inCode = false := own.run ▸ inCode_readLine code
          exact ⟨own, (inductionHypothesis behind).mpr ⟨others, reads⟩⟩

end OutlineReading

end LlmTxt
