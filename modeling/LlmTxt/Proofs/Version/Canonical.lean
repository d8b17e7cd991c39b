/-
This file says what it means for a version to be accepted. Versions in canonical form all are: these
are numbers joined by dots, at most one marker before the release with a number, at most one behind
it and one of development, each with a number, and perhaps a local part of small letters and digits.
In a version that is accepted the separators stand between letters and digits, unless one of them is
loose, and that is the only way in which they can fail to.
-/

import LlmTxt.Proofs.Text.Pieces
import LlmTxt.Proofs.Version.Separators

namespace LlmTxt.Version

open Text

/-! ### Canonical form -/

/-- A number: some digits of ASCII. -/
abbrev Number :=
  {digits : List Char // IsRun Char.isDigit digits}

/-- A part of the local part: some small letters and digits of ASCII. -/
abbrev Segment :=
  {letters : List Char // IsRun (fun character => character.isLower || character.isDigit) letters}

/-- What a version before the release is. -/
inductive Stage where
  | alpha
  | beta
  | candidate
deriving DecidableEq, Repr

/-- A version in canonical form, part by part. -/
structure Canonical where
  first : Number
  others : List Number
  stage : Option (Stage × Number)
  post : Option Number
  development : Option Number
  label : List Segment

def Stage.word : Stage → List Char
  | alpha => ['a']
  | beta => ['b']
  | candidate => ['r', 'c']

/-- A marker with its number. -/
def marked (lead word : List Char) (number : Number) : List Char :=
  lead ++ (word ++ number.val)

/-- The local part, if there is one. -/
def localPart : List Segment → List Char
  | [] => []
  | segment :: others => '+' :: ['.'].intercalate (segment.val :: others.map Subtype.val)

/-- A version in canonical form, as it is written. -/
def Canonical.text (form : Canonical) : List Char :=
  ['.'].intercalate (form.first.val :: form.others.map Subtype.val) ++
    ((form.stage.elim [] fun (stage, number) => marked [] stage.word number) ++
      (form.post.elim [] (marked ['.'] ['p', 'o', 's', 't']) ++
        (form.development.elim [] (marked ['.'] ['d', 'e', 'v']) ++ localPart form.label)))

/-! ### The characters of a version -/

variable {inRun isJoint : Char → Bool} {character : Char}
  {text run runs rest lead word : List Char}

theorem isBlank_of_isLetter (letter : isLetter character = true) : isBlank character = false :=
  (Bool.not_eq_true' _).mp (@of_isLetter character (fun other => !isBlank other) (by decide)
    (by decide) letter)

theorem isBlank_of_isDigit (digit : isDigit character = true) : isBlank character = false := by
  refine Bool.eq_false_iff.mpr fun blank => ?_
  have noDigits : blankPoints.all (fun point => !isDigit (Char.ofNat point)) = true := by
    decide +kernel
  have noDigit := List.all_eq_true.mp noDigits _ (mem_blankPoints blank)
  rw [Char.ofNat_toNat, digit] at noDigit
  cases noDigit

theorem isBlank_of_isSeparator (separates : isSeparator character = true) :
    isBlank character = false := by
  rcases eq_of_isSeparator separates with rfl | rfl | rfl <;> decide

theorem isBlank_of_beq {joint : Char} (noBlank : isBlank joint = false)
    (same : (character == joint) = true) : isBlank character = false := by
  rwa [beq_iff_eq.mp same]

theorem isBlank_of_isLetterOrDigit (own : isLetterOrDigit character = true) :
    isBlank character = false := by
  rcases Bool.or_eq_true_iff.mp own with letter | digit
  · exact isBlank_of_isLetter letter
  · exact isBlank_of_isDigit (isDigit_of_ascii digit)

/-- There is no white space in runs, if it is neither of their class nor joins them. -/
theorem AreRuns.noBlank (areRuns : AreRuns inRun isJoint runs)
    (noRun : ∀ character, inRun character = true → isBlank character = false)
    (noJoint : ∀ character, isJoint character = true → isBlank character = false) :
    ∀ character ∈ runs, isBlank character = false := by
  induction areRuns with
  | single isRun => exact fun character member => noRun character (isRun.all character member)
  | @joined run rest joint isRun joins _ inductionHypothesis =>
    intro character member
    rcases List.mem_append.mp member with own | behind
    · exact noRun character (isRun.all character own)
    · rcases List.mem_cons.mp behind with rfl | later
      · exact noJoint character joins
      · exact inductionHypothesis character later

theorem IsOptional.noBlank (isLead : IsOptional isSeparator lead) :
    ∀ character ∈ lead, isBlank character = false := by
  cases isLead with
  | nothing => simp
  | single separates => simpa using isBlank_of_isSeparator separates

theorem IsTail.noBlank (isTail : IsTail text) :
    ∀ character ∈ text, isBlank character = false := by
  have inside (own : Char) (read : isLetterOrDigit own = true) := isBlank_of_isLetterOrDigit read
  induction isTail with
  | @ending build label isBuild isLocal =>
    intro character member
    rcases List.mem_append.mp member with inBuild | inLabel
    · cases isBuild with
      | nothing => cases inBuild
      | runs areRuns =>
        rcases List.mem_cons.mp inBuild with rfl | inRuns
        · decide
        · exact areRuns.noBlank inside (fun _ => isBlank_of_beq (by decide)) character inRuns
    · cases isLocal with
      | nothing => cases inLabel
      | runs areRuns =>
        rcases List.mem_cons.mp inLabel with rfl | inRuns
        · decide
        · refine areRuns.noBlank inside (fun joint joins => ?_) character inRuns
          rcases Bool.or_eq_true_iff.mp joins with dot | dash
          · exact isBlank_of_beq (by decide) dot
          · exact isBlank_of_beq (by decide) dash
  | @marker lead word number rest isLead isWord _ isNumber _ inductionHypothesis =>
    obtain ⟨own, digits, rfl, isOwnLead, all⟩ := isNumber
    simp only [List.mem_append]
    rintro character (before | letter | (before | digit) | behind)
    · exact isLead.noBlank character before
    · exact isBlank_of_isLetter ((isRun_of_isMarkerWord isWord).all character letter)
    · exact isOwnLead.noBlank character before
    · exact isBlank_of_isDigit (all character digit)
    · exact inductionHypothesis character behind

/-- There is no white space in a version. -/
theorem IsVersion.noBlank (isVersion : IsVersion text) :
    ∀ character ∈ text, isBlank character = false := by
  cases isVersion with
  | @parts sign numbers tail isSign areRuns isTail =>
    simp only [List.mem_append]
    rintro character (inSign | inNumbers | inTail)
    · cases isSign with
      | nothing => cases inSign
      | single sign =>
        rw [List.mem_singleton.mp inSign]
        exact isBlank_of_isLetter (isLetter_of_isSignLetter sign)
    · exact areRuns.noBlank (fun _ => isBlank_of_isDigit)
        (fun _ => isBlank_of_beq (by decide)) character inNumbers
    · exact isTail.noBlank character inTail

theorem IsVersion.isValid (isVersion : IsVersion text) : isValid text = true := by
  have whole : trim text = text := trimBy_of_ends
    (fun first member => isVersion.noBlank first (List.mem_of_head? member))
    (fun last member => isVersion.noBlank last (List.mem_of_getLast? member))
  rwa [isValid_iff, whole]

/-! ### Canonical versions are accepted -/

theorem IsRun.mono {other : Char → Bool} (isRun : IsRun inRun run)
    (inside : ∀ character, inRun character = true → other character = true) : IsRun other run :=
  ⟨isRun.nonempty, fun character member => inside character (isRun.all character member)⟩

/-- Runs with single characters between them are joined runs. -/
theorem areRuns_intercalate {joint : Char} {others : List (List Char)}
    (joins : isJoint joint = true) (isRun : IsRun inRun run) (areRuns : ∀ other ∈ others, IsRun inRun other) :
    AreRuns inRun isJoint ([joint].intercalate (run :: others)) := by
  induction others generalizing run with
  | nil =>
    rw [List.intercalate_singleton]
    exact .single isRun
  | cons next others inductionHypothesis =>
    obtain ⟨own, behind⟩ := List.forall_mem_cons.mp areRuns
    rw [List.intercalate_cons_cons, List.append_assoc, List.singleton_append]
    exact .joined isRun joins (inductionHypothesis own behind)

theorem isLetterOrDigit_of_small (small : (character.isLower || character.isDigit) = true) :
    isLetterOrDigit character = true := by
  rcases Bool.or_eq_true_iff.mp small with lower | digit
  · have alpha : character.isAlpha = true := Bool.or_eq_true_iff.mpr (Or.inr lower)
    have all : nameStartPoints.all (fun point =>
        !(Char.ofNat point).isLower || isLetter (Char.ofNat point)) = true := by decide
    have own := @of_isNameStart (fun other => !other.isLower || isLetter other) all character
      (isNameStart_of_isAlpha alpha)
    rw [lower, Bool.not_true, Bool.false_or] at own
    rw [isLetterOrDigit, own, Bool.true_or]
  · rw [isLetterOrDigit, digit, Bool.or_true]

theorem isLocal_localPart (label : List Segment) : IsLocal (localPart label) := by
  cases label with
  | nil => exact .nothing
  | cons segment others =>
    refine .runs (areRuns_intercalate (by decide)
      (segment.property.mono fun _ => isLetterOrDigit_of_small) fun other member => ?_)
    obtain ⟨further, -, rfl⟩ := List.mem_map.mp member
    exact further.property.mono fun _ => isLetterOrDigit_of_small

/-- A marker with its number may stand before what may follow numbers. -/
theorem IsTail.marked (isTail : IsTail rest) (isLead : IsOptional isSeparator lead)
    (isWord : isMarkerWord word = true) (number : Number) :
    IsTail (marked lead word number ++ rest) := by
  have digits : IsRun isDigit number.val := number.property.mono fun _ => isDigit_of_ascii
  have alone : ∀ first ∈ (number.val ++ rest).head?, isLetter first = false :=
    fun first member => isLetter_of_isDigit (digits.of_head? first member)
  rw [Version.marked, List.append_assoc, List.append_assoc]
  exact .marker isLead isWord alone ⟨[], number.val, rfl, .nothing, digits.all⟩ isTail

/-- What may be left out may stand before what may follow numbers, if it may where it is there. -/
theorem IsTail.elim {Given : Type} {given : Option Given} {write : Given → List Char}
    (isTail : IsTail rest) (written : ∀ one, IsTail rest → IsTail (write one ++ rest)) :
    IsTail (given.elim [] write ++ rest) := by
  cases given with
  | none => exact isTail
  | some one => exact written one isTail

theorem Canonical.isVersion (form : Canonical) : IsVersion form.text := by
  have numbers : AreRuns isDigit (· == '.')
      (['.'].intercalate (form.first.val :: form.others.map Subtype.val)) := by
    refine areRuns_intercalate (by decide) (form.first.property.mono fun _ => isDigit_of_ascii)
      fun other member => ?_
    obtain ⟨further, -, rfl⟩ := List.mem_map.mp member
    exact further.property.mono fun _ => isDigit_of_ascii
  have label : IsTail (localPart form.label) := .ending .nothing (isLocal_localPart form.label)
  have dot : IsOptional isSeparator ['.'] := .single rfl
  change IsVersion ([] ++ form.text)
  refine .parts .nothing numbers (.elim (.elim (.elim label ?_) ?_) ?_)
  · exact fun number isTail => isTail.marked dot (by decide) number
  · exact fun number isTail => isTail.marked dot (by decide) number
  · rintro ⟨stage, number⟩ isTail
    exact isTail.marked .nothing (by cases stage <;> decide) number

/-! ### Accepted versions -/

/-- In a version that is accepted each separator stands between two letters or digits, but that a
loose one may have none behind it and what follows a loose one may have none before it. So all
separators stand between letters and digits if and only if none is loose. And each version in
canonical form is accepted. -/
theorem separators_stand_between_unless_loose (version : List Char) :
    (isValid version = true →
      EachJoint IsPlaced [] (trim version) ∧
        (StandBetween (trim version) ↔ NoneLoose (trim version))) ∧
      ∀ form : Canonical, isValid form.text = true := by
  refine ⟨fun valid => ?_, fun form => form.isVersion.isValid⟩
  have placed := (isValid_iff.mp valid).eachJoint
  refine ⟨placed, fun between front separator back split joins loose => ?_,
    fun noneLoose front separator back split joins => ?_⟩
  · have begins := (between front separator back split joins).2
    rw [loose.ends] at begins
    cases begins
  · obtain ⟨behind, ahead⟩ := placed front separator back split joins
    have closed := noneLoose front separator back split joins
    refine ⟨behind.resolve_right ?_, ahead.resolve_right closed⟩
    rintro ⟨earlier, last, whole, loose⟩
    rw [List.nil_append] at whole
    have joint := isJoint_of_isSeparator loose.separates
    refine noneLoose earlier last (separator :: back) ?_ joint loose
    rw [split, whole, List.append_assoc, List.singleton_append]

/-- A release candidate with all that canonical form allows. -/
def candidateForm : Canonical where
  first := ⟨['1'], by decide, List.all_eq_true.mp (by decide)⟩
  others := [⟨['1', '0'], by decide, List.all_eq_true.mp (by decide)⟩]
  stage := some (.candidate, ⟨['1'], by decide, List.all_eq_true.mp (by decide)⟩)
  post := some ⟨['2'], by decide, List.all_eq_true.mp (by decide)⟩
  development := some ⟨['3'], by decide, List.all_eq_true.mp (by decide)⟩
  label := [⟨['a', 'b'], by decide, List.all_eq_true.mp (by decide)⟩,
    ⟨['4'], by decide, List.all_eq_true.mp (by decide)⟩]

theorem separators_stand_between_unless_loose_before_build :
    isValid "1.0a.-b".toList = true ∧
      IsPlaced "1.0a".toList '.' "-b".toList ∧ IsPlaced "1.0a.".toList '-' "b".toList ∧
      (StandBetween (trim "1.0a.-b".toList) ↔ NoneLoose (trim "1.0a.-b".toList)) ∧
      isValid "1.10rc1.post2.dev3+ab.4".toList = true :=
  have valid : isValid "1.0a.-b".toList = true := by decide
  have both := separators_stand_between_unless_loose "1.0a.-b".toList
  have placed := (both.1 valid).1
  ⟨valid, placed "1.0a".toList '.' "-b".toList rfl rfl,
    placed "1.0a.".toList '-' "b".toList rfl rfl, (both.1 valid).2, both.2 candidateForm⟩

/-- A separator without a number behind it may end a version, or have another one behind it. -/
theorem loose_separators_are_accepted :
    (isValid "1.0a.".toList = true ∧ ¬StandBetween (trim "1.0a.".toList)) ∧
      isValid "1.0a.-b".toList = true ∧ ¬StandBetween (trim "1.0a.-b".toList) := by
  refine ⟨⟨by decide, fun between => ?_⟩, by decide, fun between => ?_⟩
  · exact absurd (between "1.0a".toList '.' [] rfl rfl).2 (by decide)
  · exact absurd (between "1.0a".toList '.' "-b".toList rfl rfl).2 (by decide)

end LlmTxt.Version
