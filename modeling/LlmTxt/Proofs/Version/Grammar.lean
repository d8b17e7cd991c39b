/-
This file shows that reading a version from left to right is as good as trying all ways to take it
apart. The grammar says only how a version can be put together: numbers joined by dots, perhaps with
a letter v before them, then markers, then perhaps a build and a local part. The reader takes the
longest run of a class wherever one may stand. Nothing is lost by this, because what may follow the
numbers begins with no digit, and what may follow a build begins with a plus or not at all. Only a
separator between two markers can belong to either, and there the reader follows both rests.
-/

import LlmTxt.Proofs.Text.Case
import LlmTxt.Version
import Mathlib.Data.List.Basic

namespace LlmTxt.Version

open Text

/-! ### How a version is put together -/

/-- A run of a class: some characters, and all of the class. -/
structure IsRun (inRun : Char → Bool) (run : List Char) : Prop where
  nonempty : run ≠ []
  all : ∀ character ∈ run, inRun character = true

/-- Runs of a class, at least one, that are joined by single characters of another class. -/
inductive AreRuns (inRun isJoint : Char → Bool) : List Char → Prop
  | single {run : List Char} (isRun : IsRun inRun run) : AreRuns inRun isJoint run
  | joined {run rest : List Char} {joint : Char} (isRun : IsRun inRun run)
      (joins : isJoint joint = true) (others : AreRuns inRun isJoint rest) :
      AreRuns inRun isJoint (run ++ joint :: rest)

/-- A single character of a class, or nothing. -/
inductive IsOptional (inClass : Char → Bool) : List Char → Prop
  | nothing : IsOptional inClass []
  | single {character : Char} (own : inClass character = true) : IsOptional inClass [character]

/-- The letter v, which may stand before the numbers. -/
def isSignLetter (character : Char) : Bool :=
  fold character == 'v'

/-- A word that is a marker, in any case. -/
def isMarkerWord (word : List Char) : Bool :=
  markers.contains (word.map fold)

/-- What may follow the word of a marker: digits, or none, and perhaps a separator before them. The
separator may be there without digits. -/
structure IsNumber (number : List Char) : Prop where
  split : ∃ lead digits, number = lead ++ digits ∧ IsOptional isSeparator lead ∧
    ∀ character ∈ digits, isDigit character = true

/-- A build, or nothing. -/
inductive IsBuild : List Char → Prop
  | nothing : IsBuild []
  | runs {runs : List Char} (areRuns : AreRuns isLetterOrDigit (· == '.') runs) :
      IsBuild ('-' :: runs)

/-- A local part, or nothing. -/
inductive IsLocal : List Char → Prop
  | nothing : IsLocal []
  | runs {runs : List Char}
      (areRuns : AreRuns isLetterOrDigit (fun joint => joint == '.' || joint == '-') runs) :
      IsLocal ('+' :: runs)

/-- What may follow the numbers of a version: markers, each with a word that stands alone among
letters, and behind them a build and a local part. -/
inductive IsTail : List Char → Prop
  | ending {build label : List Char} (isBuild : IsBuild build) (isLocal : IsLocal label) :
      IsTail (build ++ label)
  | marker {lead word number rest : List Char} (isLead : IsOptional isSeparator lead)
      (isWord : isMarkerWord word = true)
      (alone : ∀ first ∈ (number ++ rest).head?, isLetter first = false)
      (isNumber : IsNumber number) (isTail : IsTail rest) :
      IsTail (lead ++ (word ++ (number ++ rest)))

/-- A version, as it is put together. -/
inductive IsVersion : List Char → Prop
  | parts {sign numbers tail : List Char} (isSign : IsOptional isSignLetter sign)
      (areRuns : AreRuns isDigit (· == '.') numbers) (isTail : IsTail tail) :
      IsVersion (sign ++ (numbers ++ tail))

/-! ### Classes of characters -/

variable {inRun isJoint : Char → Bool} {character : Char}
  {text run runs rest left lead word number digits : List Char}

/-- What holds of letters can be tried on each of them: those of ASCII, and the four beyond it. -/
theorem of_isLetter {holds : Char → Bool}
    (ascii : nameStartPoints.all (fun point => holds (Char.ofNat point)) = true)
    (beyond : (kelvinSign :: foldedLetters).all holds = true) (letter : isLetter character = true) :
    holds character = true := by
  rcases isAscii_or_of_isAscii_fold (isAscii_of_isAlpha letter) with own | folded | rfl
  · unfold isLetter at letter
    rw [fold_of_isAscii own] at letter
    exact of_isNameStart ascii (isNameStart_of_isAlpha (isAlpha_of_isAlpha_toLower letter))
  · exact List.all_eq_true.mp beyond _ (List.mem_cons_of_mem _ folded)
  · exact List.all_eq_true.mp beyond _ List.mem_cons_self

theorem isDigit_of_isLetter (letter : isLetter character = true) : isDigit character = false := by
  have beyond : (kelvinSign :: foldedLetters).all (fun other => !isDigit other) = true := by
    decide +kernel
  exact (Bool.not_eq_true' _).mp (@of_isLetter character (fun other => !isDigit other) (by decide)
    beyond letter)

theorem eq_of_isSeparator (separates : isSeparator character = true) :
    character = '-' ∨ character = '_' ∨ character = '.' := by
  unfold isSeparator at separates
  simpa [or_assoc] using separates

theorem isDigit_of_isSeparator (separates : isSeparator character = true) :
    isDigit character = false := by
  rcases eq_of_isSeparator separates with rfl | rfl | rfl <;> decide

theorem isSeparator_of_isLetter (letter : isLetter character = true) :
    isSeparator character = false := by
  refine Bool.eq_false_iff.mpr fun separates => ?_
  rcases eq_of_isSeparator separates with rfl | rfl | rfl <;> exact absurd letter (by decide)

theorem isSeparator_of_isDigit (digit : isDigit character = true) :
    isSeparator character = false := by
  refine Bool.eq_false_iff.mpr fun separates => ?_
  rw [isDigit_of_isSeparator separates] at digit
  cases digit

/-- A marker is a word of letters. -/
theorem isRun_of_isMarkerWord (isWord : isMarkerWord word = true) : IsRun isLetter word where
  nonempty := by
    rintro rfl
    exact absurd isWord (by decide)
  all character member := by
    have letters : markers.all (fun marker => marker.all Char.isAlpha) = true := by decide
    have own := List.all_eq_true.mp letters _ (List.contains_iff_mem.mp isWord)
    exact List.all_eq_true.mp own _ (List.mem_map_of_mem member)

/-! ### Runs -/

/-- What is read as runs are runs. -/
theorem areRuns_of_afterRuns {fuel : Nat} (found : afterRuns inRun isJoint fuel text = some left) :
    ∃ runs, text = runs ++ left ∧ AreRuns inRun isJoint runs := by
  induction fuel generalizing text left with
  | zero => cases found
  | succ fuel inductionHypothesis =>
    rw [afterRuns] at found
    split at found
    · cases found
    rename_i filled
    have isRun : IsRun inRun (text.takeWhile inRun) :=
      ⟨fun nothing => filled (List.isEmpty_iff.mpr nothing), fun _ => List.mem_takeWhile_imp⟩
    have split := List.takeWhile_append_dropWhile (p := inRun) (l := text)
    cases behind : text.dropWhile inRun with
    | nil =>
      rw [behind] at found split
      cases found
      exact ⟨_, split.symm, .single isRun⟩
    | cons joint others =>
      rw [behind] at found split
      dsimp only at found
      -- a joint that no further run follows is left over
      have alone : some (joint :: others) = some left →
          ∃ runs, text = runs ++ left ∧ AreRuns inRun isJoint runs := by
        rintro ⟨⟩
        exact ⟨_, split.symm, .single isRun⟩
      split at found
      · rename_i joins
        split at found
        · rename_i further reached
          cases found
          obtain ⟨runs, rfl, areRuns⟩ := inductionHypothesis reached
          refine ⟨_, ?_, .joined isRun joins areRuns⟩
          rw [List.append_assoc, List.cons_append]
          exact split.symm
        · exact alone found
      · exact alone found

/-- Runs are not continued by a text: it does not begin with the class, and not with a joint and
the class behind it. -/
structure Stops (inRun isJoint : Char → Bool) (rest : List Char) : Prop where
  noRun : ∀ first ∈ rest.head?, inRun first = false
  noJoint : ∀ joint others, rest = joint :: others → isJoint joint = true →
    ∀ first ∈ others.head?, inRun first = false

theorem stops_nil : Stops inRun isJoint [] where
  noRun := by simp
  noJoint := by simp

/-- A text that begins with something else continues no runs. -/
theorem stops_cons {first : Char} (noRun : inRun first = false) (noJoint : isJoint first = false) :
    Stops inRun isJoint (first :: rest) where
  noRun := by simpa using noRun
  noJoint := by
    rintro joint others ⟨⟩ joins
    rw [noJoint] at joins
    cases joins

theorem afterRuns_eq_none (noRun : ∀ first ∈ text.head?, inRun first = false) (fuel : Nat) :
    afterRuns inRun isJoint fuel text = none := by
  cases fuel with
  | zero => rfl
  | succ fuel =>
    have nothing : ([] ++ text).takeWhile inRun = [] := takeWhile_append_of_all (by simp) noRun
    rw [List.nil_append] at nothing
    rw [afterRuns, nothing]
    rfl

/-- All runs are read, up to a text that does not continue them. -/
theorem afterRuns_append (apart : ∀ joint, isJoint joint = true → inRun joint = false)
    (areRuns : AreRuns inRun isJoint runs) (stops : Stops inRun isJoint rest) {fuel : Nat}
    (enough : runs.length < fuel) : afterRuns inRun isJoint fuel (runs ++ rest) = some rest := by
  induction areRuns generalizing fuel with
  | @single run isRun =>
    obtain ⟨less, rfl⟩ := Nat.exists_eq_add_of_le' (Nat.zero_lt_of_lt enough)
    rw [afterRuns, takeWhile_append_of_all isRun.all stops.noRun,
      dropWhile_append_of_all isRun.all stops.noRun, if_neg (by simpa using isRun.nonempty)]
    cases rest with
    | nil => rfl
    | cons joint others =>
      dsimp only
      split
      · rename_i joins
        rw [afterRuns_eq_none (stops.noJoint joint others rfl joins)]
      · rfl
  | @joined run others joint isRun joins _ inductionHypothesis =>
    obtain ⟨less, rfl⟩ := Nat.exists_eq_add_of_le' (Nat.zero_lt_of_lt enough)
    have ends : ∀ first ∈ (joint :: (others ++ rest)).head?, inRun first = false := by
      simpa using apart joint joins
    have fewer : others.length < less := by
      rw [List.length_append, List.length_cons] at enough
      omega
    rw [List.append_assoc, List.cons_append, afterRuns, takeWhile_append_of_all isRun.all ends,
      dropWhile_append_of_all isRun.all ends, if_neg (by simpa using isRun.nonempty)]
    dsimp only
    rw [if_pos joins, inductionHypothesis fewer]

/-! ### What may be left out -/

/-- What is left of a text without a character of a class at its beginning. -/
def withoutFirst (inClass : Char → Bool) (text : List Char) : List Char :=
  match text with
  | [] => []
  | character :: rest => if inClass character then rest else text

theorem exists_optional (inClass : Char → Bool) (text : List Char) :
    ∃ lead, IsOptional inClass lead ∧ text = lead ++ withoutFirst inClass text := by
  cases text with
  | nil => exact ⟨[], .nothing, rfl⟩
  | cons character rest =>
    rw [withoutFirst]
    split
    · rename_i own
      exact ⟨[character], .single own, rfl⟩
    · exact ⟨[], .nothing, rfl⟩

theorem withoutFirst_append {inClass : Char → Bool} (isOptional : IsOptional inClass lead)
    (ends : ∀ first ∈ rest.head?, inClass first = false) :
    withoutFirst inClass (lead ++ rest) = rest := by
  cases isOptional with
  | single own => exact if_pos own
  | nothing =>
    cases rest with
    | nil => rfl
    | cons first others => exact if_neg (by simpa using ends first rfl)

/-! ### What may follow the numbers -/

theorem IsRun.of_head? (isRun : IsRun inRun run) :
    ∀ first ∈ (run ++ rest).head?, inRun first = true := by
  rw [List.head?_append_of_ne_nil _ isRun.nonempty]
  exact fun first member => isRun.all first (List.mem_of_head? member)

/-- What may follow the numbers does not continue them. -/
theorem IsTail.stops (isTail : IsTail text) : Stops isDigit (· == '.') text := by
  cases isTail with
  | ending isBuild isLocal =>
    cases isBuild with
    | runs => exact stops_cons (by decide) (by decide)
    | nothing =>
      cases isLocal with
      | nothing => exact stops_nil
      | runs => exact stops_cons (by decide) (by decide)
  | @marker lead word number rest isLead isWord =>
    have letter : ∀ first ∈ (word ++ (number ++ rest)).head?, isLetter first = true :=
      (isRun_of_isMarkerWord isWord).of_head?
    have noDigit first member := isDigit_of_isLetter (letter first member)
    cases isLead with
    | single separates =>
      refine ⟨?_, ?_⟩
      · simpa using isDigit_of_isSeparator separates
      · rintro _ _ ⟨⟩ -
        exact noDigit
    | nothing =>
      -- a word begins with a letter, and no joint is one
      refine ⟨noDigit, fun joint others split joins => ?_⟩
      have isLetterJoint := letter joint (by rw [← List.nil_append (word ++ _), split]; rfl)
      rw [beq_iff_eq.mp joins] at isLetterJoint
      exact absurd isLetterJoint (by decide)

theorem IsTail.noDigit (isTail : IsTail text) : ∀ first ∈ text.head?, isDigit first = false :=
  isTail.stops.noRun

/-! ### Markers -/

/-- A marker is read from its word on. -/
theorem mem_afterMarker_iff :
    left ∈ afterMarker text ↔
      isMarkerWord ((withoutFirst isSeparator text).takeWhile isLetter) = true ∧
        left ∈ afterNumber ((withoutFirst isSeparator text).dropWhile isLetter) := by
  change left ∈ (if isMarkerWord ((withoutFirst isSeparator text).takeWhile isLetter) then _
    else _) ↔ _
  split
  · rename_i isWord
    exact ⟨fun member => ⟨isWord, member⟩, fun both => both.2⟩
  · rename_i noWord
    exact ⟨fun member => absurd member List.not_mem_nil, fun both => absurd both.1 noWord⟩

/-- What the number of a marker can leave follows such a number. -/
theorem isNumber_of_mem_afterNumber (member : left ∈ afterNumber text) :
    ∃ number, text = number ++ left ∧ IsNumber number := by
  have digitsOnly (behind : List Char) : ∃ number, behind = number ++ behind.dropWhile isDigit ∧
      ∀ character ∈ number, isDigit character = true :=
    ⟨_, List.takeWhile_append_dropWhile.symm, fun _ => List.mem_takeWhile_imp⟩
  cases text with
  | nil =>
    rw [List.mem_singleton.mp member]
    exact ⟨[], rfl, ⟨[], [], rfl, .nothing, by simp⟩⟩
  | cons character rest =>
    rw [afterNumber] at member
    split at member
    · rename_i separates
      rcases List.mem_cons.mp member with rfl | whole
      · obtain ⟨digits, split, all⟩ := digitsOnly rest
        exact ⟨character :: digits, congrArg (character :: ·) split,
          ⟨[character], digits, rfl, .single separates, all⟩⟩
      · rw [List.mem_singleton.mp whole]
        exact ⟨[], rfl, ⟨[], [], rfl, .nothing, by simp⟩⟩
    · rw [List.mem_singleton.mp member]
      obtain ⟨digits, split, all⟩ := digitsOnly (character :: rest)
      exact ⟨digits, split, ⟨[], digits, rfl, .nothing, all⟩⟩

/-- Among what the number of a marker can leave is all that may follow it. -/
theorem mem_afterNumber (isNumber : IsNumber number)
    (ends : ∀ first ∈ rest.head?, isDigit first = false) : rest ∈ afterNumber (number ++ rest) := by
  obtain ⟨lead, digits, rfl, isLead, all⟩ := isNumber
  have dropped := dropWhile_append_of_all all ends
  cases isLead with
  | @single character separates =>
    change rest ∈ afterNumber (character :: (digits ++ rest))
    rw [afterNumber, if_pos separates, dropped]
    exact List.mem_cons_self
  | nothing =>
    rw [List.nil_append]
    cases whole : digits ++ rest with
    | nil =>
      rw [(List.append_eq_nil_iff.mp whole).2]
      exact List.mem_singleton_self _
    | cons first others =>
      rw [afterNumber]
      split
      · rename_i separates
        -- a separator is no digit, so it belongs to the rest
        cases digits with
        | nil => exact List.mem_cons_of_mem _ (List.mem_singleton.mpr whole)
        | cons digit more =>
          obtain ⟨rfl, -⟩ := List.cons.inj whole
          rw [isSeparator_of_isDigit (all digit List.mem_cons_self)] at separates
          cases separates
      · rw [← whole, dropped]
        exact List.mem_singleton_self _

/-- What one marker can leave follows such a marker. -/
theorem isTail_of_mem_afterMarker (member : left ∈ afterMarker text) (isTail : IsTail left) :
    IsTail text := by
  obtain ⟨isWord, behind⟩ := mem_afterMarker_iff.mp member
  obtain ⟨lead, isLead, split⟩ := exists_optional isSeparator text
  obtain ⟨number, numbered, isNumber⟩ := isNumber_of_mem_afterNumber behind
  have alone : ∀ first ∈ (number ++ left).head?, isLetter first = false := by
    rw [← numbered]
    intro first own
    have outside := List.head?_dropWhile_not isLetter (withoutFirst isSeparator text)
    rw [Option.mem_def.mp own] at outside
    exact outside
  rw [split, ← List.takeWhile_append_dropWhile (p := isLetter) (l := withoutFirst isSeparator text),
    numbered]
  exact .marker isLead isWord alone isNumber isTail

/-- Among what one marker can leave is all that may follow it. -/
theorem mem_afterMarker (isLead : IsOptional isSeparator lead) (isWord : isMarkerWord word = true)
    (alone : ∀ first ∈ (number ++ rest).head?, isLetter first = false) (isNumber : IsNumber number)
    (isTail : IsTail rest) : rest ∈ afterMarker (lead ++ (word ++ (number ++ rest))) := by
  have isRun := isRun_of_isMarkerWord isWord
  have noSeparator : ∀ first ∈ (word ++ (number ++ rest)).head?, isSeparator first = false :=
    fun first member => isSeparator_of_isLetter (isRun.of_head? first member)
  rw [mem_afterMarker_iff, withoutFirst_append isLead noSeparator, takeWhile_append_of_all isRun.all alone,
    dropWhile_append_of_all isRun.all alone]
  exact ⟨isWord, mem_afterNumber isNumber isTail.noDigit⟩

/-- Among some texts is one that may follow the numbers, if some markers leave an ending of it. -/
theorem exists_isTail_of_mem_afterMarkers {fuel : Nat} {rests : List (List Char)}
    (member : left ∈ afterMarkers fuel rests) (isTail : IsTail left) :
    ∃ text ∈ rests, IsTail text := by
  induction fuel generalizing rests with
  | zero => exact ⟨left, member, isTail⟩
  | succ fuel inductionHypothesis =>
    rw [afterMarkers] at member
    rcases List.mem_append.mp member with own | further
    · exact ⟨left, own, isTail⟩
    · obtain ⟨behind, reached, follows⟩ := inductionHypothesis further
      obtain ⟨text, inRests, marked⟩ :=
        List.mem_flatMap.mp (List.mem_eraseDups.mp reached)
      exact ⟨text, inRests, isTail_of_mem_afterMarker marked follows⟩

/-- The markers of a text are all gone through, because each of them takes some of it. -/
theorem exists_mem_afterMarkers (isTail : IsTail text) {fuel : Nat} {rests : List (List Char)}
    (member : text ∈ rests) (enough : text.length < fuel) :
    ∃ build label, IsBuild build ∧ IsLocal label ∧ build ++ label ∈ afterMarkers fuel rests := by
  induction isTail generalizing fuel rests with
  | @ending build label isBuild isLocal =>
    refine ⟨build, label, isBuild, isLocal, ?_⟩
    cases fuel with
    | zero => exact member
    | succ fuel => exact List.mem_append_left _ member
  | @marker lead word number rest isLead isWord alone isNumber isTail inductionHypothesis =>
    obtain ⟨less, rfl⟩ := Nat.exists_eq_add_of_le' (Nat.zero_lt_of_lt enough)
    have reached : rest ∈ (rests.flatMap afterMarker).eraseDups :=
      List.mem_eraseDups.mpr (List.mem_flatMap.mpr
        ⟨_, member, mem_afterMarker isLead isWord alone isNumber isTail⟩)
    have fewer : rest.length < less := by
      have some : 0 < word.length :=
        List.length_pos_iff.mpr (isRun_of_isMarkerWord isWord).nonempty
      simp only [List.length_append] at enough
      omega
    obtain ⟨build, label, isBuild, isLocal, behind⟩ := inductionHypothesis reached fewer
    exact ⟨build, label, isBuild, isLocal, List.mem_append_right _ behind⟩

/-! ### Builds and local parts -/

theorem isLetterOrDigit_dot : ∀ joint : Char, (joint == '.') = true →
    isLetterOrDigit joint = false := by
  intro joint same
  rw [beq_iff_eq.mp same]
  decide

theorem isLetterOrDigit_dot_or_dash : ∀ joint : Char, (joint == '.' || joint == '-') = true →
    isLetterOrDigit joint = false := by
  intro joint same
  rcases Bool.or_eq_true_iff.mp same with dot | dash
  · exact isLetterOrDigit_dot joint dot
  · rw [beq_iff_eq.mp dash]
    decide

theorem isLocalPart_iff : isLocalPart text = true ↔ IsLocal text := by
  constructor
  · intro reads
    unfold isLocalPart at reads
    split at reads
    · exact .nothing
    · rename_i rest
      obtain ⟨runs, split, areRuns⟩ := areRuns_of_afterRuns (beq_iff_eq.mp reads)
      rw [split, List.append_nil]
      exact .runs areRuns
    · cases reads
  · intro isLocal
    cases isLocal with
    | nothing => rfl
    | @runs runs areRuns =>
      have read := afterRuns_append isLetterOrDigit_dot_or_dash areRuns stops_nil
        (Nat.lt_succ_self runs.length)
      rw [List.append_nil] at read
      exact beq_iff_eq.mpr read

/-- What is left after a build follows a build. -/
theorem exists_isBuild (text : List Char) :
    ∃ build, IsBuild build ∧ text = build ++ afterBuild text := by
  unfold afterBuild
  split
  · rename_i rest
    cases read : afterRuns isLetterOrDigit (· == '.') (rest.length + 1) rest with
    | none => exact ⟨[], .nothing, rfl⟩
    | some left =>
      obtain ⟨runs, split, areRuns⟩ := areRuns_of_afterRuns read
      exact ⟨'-' :: runs, .runs areRuns, congrArg ('-' :: ·) split⟩
  · exact ⟨[], .nothing, rfl⟩

theorem afterBuild_append {build label : List Char} (isBuild : IsBuild build)
    (isLocal : IsLocal label) : afterBuild (build ++ label) = label := by
  cases isBuild with
  | nothing => cases isLocal <;> rfl
  | @runs runs areRuns =>
    have stops : Stops isLetterOrDigit (· == '.') label := by
      cases isLocal with
      | nothing => exact stops_nil
      | runs => exact stops_cons (by decide) (by decide)
    have enough : runs.length < (runs ++ label).length + 1 := by
      rw [List.length_append]
      omega
    rw [List.cons_append, afterBuild, afterRuns_append isLetterOrDigit_dot areRuns stops enough]
    rfl

/-! ### Versions -/

theorem isLetter_of_isSignLetter (sign : isSignLetter character = true) :
    isLetter character = true := by
  rw [isLetter, beq_iff_eq.mp sign]
  decide

theorem isSignLetter_of_isDigit (digit : isDigit character = true) :
    isSignLetter character = false := by
  refine Bool.eq_false_iff.mpr fun sign => ?_
  rw [isDigit_of_isLetter (isLetter_of_isSignLetter sign)] at digit
  cases digit

theorem AreRuns.begins (areRuns : AreRuns inRun isJoint runs) :
    ∀ first ∈ (runs ++ rest).head?, inRun first = true := by
  cases areRuns with
  | single isRun => exact isRun.of_head?
  | joined isRun =>
    rw [List.append_assoc]
    exact isRun.of_head?

theorem afterRelease_eq (text : List Char) :
    afterRelease text =
      afterRuns isDigit (· == '.') ((withoutFirst isSignLetter text).length + 1)
        (withoutFirst isSignLetter text) :=
  rfl

/-- What is left after the numbers of a version is what may follow them. -/
theorem afterRelease_eq_some_iff (isTail : IsTail rest) :
    afterRelease text = some rest ↔ ∃ sign numbers, text = sign ++ (numbers ++ rest) ∧
      IsOptional isSignLetter sign ∧ AreRuns isDigit (· == '.') numbers := by
  rw [afterRelease_eq]
  constructor
  · intro read
    obtain ⟨sign, isSign, split⟩ := exists_optional isSignLetter text
    obtain ⟨numbers, numbered, areRuns⟩ := areRuns_of_afterRuns read
    exact ⟨sign, numbers, by rw [← numbered, ← split], isSign, areRuns⟩
  · rintro ⟨sign, numbers, rfl, isSign, areRuns⟩
    have apart : ∀ joint : Char, (joint == '.') = true → isDigit joint = false := by
      intro joint same
      rw [beq_iff_eq.mp same]
      decide
    have begins : ∀ first ∈ (numbers ++ rest).head?, isSignLetter first = false :=
      fun first member => isSignLetter_of_isDigit (areRuns.begins first member)
    rw [withoutFirst_append isSign begins]
    refine afterRuns_append apart areRuns isTail.stops ?_
    rw [List.length_append]
    omega

/-- A text is read as a version if and only if it can be put together as one, but for white space
around it. -/
theorem isValid_iff {version : List Char} : isValid version = true ↔ IsVersion (trim version) := by
  unfold isValid
  dsimp only
  constructor
  · intro valid
    split at valid
    · cases valid
    · rename_i rest read
      obtain ⟨left, member, isLocal⟩ := List.any_eq_true.mp valid
      obtain ⟨build, isBuild, split⟩ := exists_isBuild left
      have isEnding : IsTail left := split ▸ .ending isBuild (isLocalPart_iff.mp isLocal)
      obtain ⟨tail, own, isTail⟩ := exists_isTail_of_mem_afterMarkers member isEnding
      rw [List.mem_singleton.mp own] at isTail
      obtain ⟨sign, numbers, whole, isSign, areRuns⟩ := (afterRelease_eq_some_iff isTail).mp read
      rw [whole]
      exact .parts isSign areRuns isTail
  · intro isVersion
    generalize trim version = text at isVersion
    cases isVersion with
    | @parts sign numbers tail isSign areRuns isTail =>
      have read := (afterRelease_eq_some_iff isTail).mpr ⟨sign, numbers, rfl, isSign, areRuns⟩
      obtain ⟨build, label, isBuild, isLocal, member⟩ :=
        exists_mem_afterMarkers isTail (List.mem_singleton_self tail) (Nat.lt_succ_self _)
      rw [read]
      refine List.any_eq_true.mpr ⟨build ++ label, member, ?_⟩
      rw [afterBuild_append isBuild isLocal]
      exact isLocalPart_iff.mpr isLocal

end LlmTxt.Version
