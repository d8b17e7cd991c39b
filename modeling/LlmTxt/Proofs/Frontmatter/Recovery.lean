/-
This file shows what is left of a frontmatter block that is no mapping. A block that YAML rejects
keeps every key that begins a line, with the value that its first line gives it, so a required key is
missing only if no line begins with it. A block that YAML reads as a text or a list keeps no key at
all, though its lines are still noted.
-/

import LlmTxt.Proofs.Frontmatter.Defects
import LlmTxt.Proofs.Frontmatter.Keys

namespace LlmTxt.Frontmatter

open Text

variable {body : List Line} {line : Line} {key value : String} {closing : Nat}
  {frontmatter : Frontmatter} {accepted : List String}

/-! ### What a block that is at fault holds -/

/-- The pairs of keys and texts that the lines of a block give. -/
def recovered (body : List Line) : List (String × Yaml.Value) :=
  textPairs (recover (body.map (·.characters)))

/-- A block is at fault in two ways: YAML rejects it, or it is something else than a mapping. -/
theorem contentOf_eq_ok_of_fault {content : Content}
    (made : contentOf (body.map (·.characters)) (load body) = .ok content)
    {fault : FrontmatterFault} (found : content.fault = some fault) :
    (∃ rejection, fault = .notYaml rejection ∧ content.pairs = recovered body) ∨
      ∃ value, fault = .notMapping value ∧ content.pairs = [] := by
  cases loaded : load body with
  | error failure =>
    rw [loaded] at made
    cases failure with
    | rejected rejection =>
      cases made
      cases found
      exact .inl ⟨rejection, rfl, rfl⟩
    | _ => cases made
  | ok read =>
    rw [loaded] at made
    cases read with
    | none =>
      cases made
      cases found
    | some value =>
      cases value with
      | mapping pairs =>
        cases made
        cases found
      | _ =>
        cases made
        cases found
        exact .inr ⟨_, rfl, rfl⟩

/-! ### The keys of a block that YAML rejects -/

/-- A frontmatter keeps the keys of its lines: each of them has the number and the value of its first
line, and a required key is reported as missing only if no line begins with it. -/
structure KeepsKeys (frontmatter : Frontmatter) (body : List Line) (accepted : List String) :
    Prop where
  keyLines : ∀ line key value, IsFirst body line key value →
    frontmatter.keyLines.lookup key = some line.number
  recognized : ∀ line key value, IsFirst body line key value → key ∈ recognizedKeys →
    frontmatter.get? key = some value
  others : ∀ line key value, IsFirst body line key value → key ∉ recognizedKeys →
    frontmatter.extra.lookup key = some (.text value)
  missing : ∀ key ∈ recognizedKeys,
    (Defect.missingKey key frontmatter.span).diagnostic ∈ check (some frontmatter) accepted ↔
      ∀ line ∈ body, ¬ line.BeginsWith key

/-- What is recovered for a key is the value of its first line. -/
theorem IsFirst.lookup_recovered (first : IsFirst body line key value) :
    (recovered body).lookup key = some (.text value) := by
  rw [recovered, lookup_textPairs, lookup_recover, first.lookup_scan]
  rfl

theorem lookup_recovered_eq_none (without : ∀ line ∈ body, ¬ line.BeginsWith key) :
    (recovered body).lookup key = none := by
  rw [recovered, lookup_textPairs, lookup_recover, lookup_scan_eq_none without]
  rfl

/-- A block that YAML rejects keeps the keys of its lines. -/
theorem keepsKeys_of_recovered {content : Content} (pairs : content.pairs = recovered body)
    (closing : Nat) (accepted : List String) :
    (content.toFrontmatter body closing).KeepsKeys body accepted := by
  have recognized (line : Line) (key value : String) (first : IsFirst body line key value)
      (known : key ∈ recognizedKeys) :
      (content.toFrontmatter body closing).get? key = some value := by
    change (entriesOf content.pairs).lookup key = some value
    rw [pairs, lookup_entriesOf known first.lookup_recovered, first.gives.trim_eq]
  refine ⟨fun _ _ _ first => first.lookup_linesOfKeys, recognized, ?_, ?_⟩
  · intro line key value first other
    change (extraOf content.pairs).lookup key = some (.text value)
    rw [pairs, lookup_extraOf other first.lookup_recovered]
  · intro key known
    have valid : (content.toFrontmatter body closing).invalid = [] := by
      change invalidOf content.pairs = []
      rw [pairs, recovered, invalidOf_textPairs]
    rw [diagnostic_missingKey_mem_check, valid]
    constructor
    · rintro ⟨_, _, absent⟩ line member begins
      obtain ⟨first, value, isFirst⟩ := exists_isFirst member begins
      rw [recognized first key value isFirst known] at absent
      cases absent
    · intro without
      refine ⟨known, rfl, ?_⟩
      change (entriesOf content.pairs).lookup key = none
      rw [pairs, lookup_entriesOf_eq_none (lookup_recovered_eq_none without)]

/-! ### The keys of a block that is read as something else -/

/-- A frontmatter has lost all keys: it holds none, and every required one is reported as missing. -/
structure KeepsNothing (frontmatter : Frontmatter) (accepted : List String) : Prop where
  entries : frontmatter.entries = []
  extra : frontmatter.extra = []
  missing : ∀ key ∈ recognizedKeys,
    (Defect.missingKey key frontmatter.span).diagnostic ∈ check (some frontmatter) accepted

theorem keepsNothing_of_nil {content : Content} (pairs : content.pairs = []) (body : List Line)
    (closing : Nat) (accepted : List String) :
    (content.toFrontmatter body closing).KeepsNothing accepted := by
  have entries : (content.toFrontmatter body closing).entries = [] := congrArg entriesOf pairs
  have invalid : (content.toFrontmatter body closing).invalid = [] := congrArg invalidOf pairs
  refine ⟨entries, congrArg extraOf pairs, fun key known => ?_⟩
  rw [diagnostic_missingKey_mem_check, invalid, get?, entries]
  exact ⟨known, rfl, rfl⟩

/-- A frontmatter that has lost all keys keeps those of its lines only if there are none. -/
theorem KeepsNothing.keepsKeys_iff (nothing : frontmatter.KeepsNothing accepted) :
    frontmatter.KeepsKeys body accepted ↔ ∀ line ∈ body, ∀ key, ¬ line.BeginsWith key := by
  constructor
  · intro keeps line member key begins
    obtain ⟨first, value, isFirst⟩ := exists_isFirst member begins
    by_cases known : key ∈ recognizedKeys
    · have found := keeps.recognized first key value isFirst known
      rw [get?, nothing.entries] at found
      cases found
    · have found := keeps.others first key value isFirst known
      rw [nothing.extra] at found
      cases found
  · intro without
    have absent {line : Line} {key value : String} (first : IsFirst body line key value) : False :=
      without line first.mem key ⟨value, first.gives⟩
    refine ⟨fun _ _ _ first => (absent first).elim, fun _ _ _ first => (absent first).elim,
      fun _ _ _ first => (absent first).elim, fun key known => ?_⟩
    exact iff_of_true (nothing.missing key known) fun line member => without line member key

/-- The keys of a frontmatter block that is no mapping are kept if YAML rejects the block, and
otherwise only if no line begins with a key: where YAML reads the block as a text or a list, all keys
are lost. -/
theorem keepsKeys_iff_rejected (loaded : ofLines body closing = .ok frontmatter)
    (faulty : frontmatter.fault.isSome = true) (accepted : List String) :
    (frontmatter.KeepsKeys body accepted ↔
      (∃ rejection, frontmatter.fault = some (.notYaml rejection)) ∨
        ∀ line ∈ body, ∀ key, ¬ line.BeginsWith key) ∧
    ∀ value, frontmatter.fault = some (.notMapping value) →
      frontmatter.KeepsNothing accepted := by
  obtain ⟨content, made, rfl⟩ := ofLines_eq_ok_iff_content.mp loaded
  obtain ⟨fault, found⟩ := Option.isSome_iff_exists.mp faulty
  have own : (content.toFrontmatter body closing).fault = some fault := found
  rw [own]
  rcases contentOf_eq_ok_of_fault made found with ⟨rejection, rfl, pairs⟩ | ⟨value, rfl, pairs⟩
  · refine ⟨iff_of_true (keepsKeys_of_recovered pairs closing accepted) (.inl ⟨rejection, rfl⟩), ?_⟩
    rintro value ⟨⟩
  · have nothing := keepsNothing_of_nil pairs body closing accepted
    refine ⟨?_, fun _ _ => nothing⟩
    rw [nothing.keepsKeys_iff, or_iff_right]
    rintro ⟨_, ⟨⟩⟩

/-- A block that YAML rejects, since a text without quotes holds a colon and a blank. -/
def colonBody : List Line :=
  [⟨2, 4, "summary: geopy: a client".toList⟩, ⟨3, 29, "package: p".toList⟩]

theorem keepsKeys_iff_rejected_of_colon :
    ∃ frontmatter, ofLines colonBody 4 = .ok frontmatter ∧ frontmatter.fault.isSome = true ∧
      (frontmatter.KeepsKeys colonBody ["python"] ↔
        (∃ rejection, frontmatter.fault = some (.notYaml rejection)) ∨
          ∀ line ∈ colonBody, ∀ key, ¬ line.BeginsWith key) ∧
      ∀ value, frontmatter.fault = some (.notMapping value) →
        frontmatter.KeepsNothing ["python"] := by
  have checked : (ofLines colonBody 4).toOption.map (·.fault.isSome) = some true := by
    decide +kernel
  cases loaded : ofLines colonBody 4 with
  | error failure =>
    rw [loaded] at checked
    cases checked
  | ok frontmatter =>
    rw [loaded] at checked
    have faulty : frontmatter.fault.isSome = true := Option.some.inj checked
    exact ⟨frontmatter, rfl, faulty, keepsKeys_iff_rejected loaded faulty ["python"]⟩

/-- A block that YAML reads as one text, since no blank follows the colon. -/
def tightBody : List Line :=
  [⟨2, 4, "package:p".toList⟩]

/-- The only key of such a block is lost, though its line is noted. -/
theorem package_is_lost_without_blank :
    ∃ frontmatter, ofLines tightBody 3 = .ok frontmatter ∧ frontmatter.fault.isSome = true ∧
      ¬ frontmatter.KeepsKeys tightBody ["python"] := by
  have checked : (ofLines tightBody 3).toOption.map (fun block =>
      (block.fault.isSome, block.get? "package")) = some (true, none) := by decide +kernel
  cases loaded : ofLines tightBody 3 with
  | error failure =>
    rw [loaded] at checked
    cases checked
  | ok frontmatter =>
    rw [loaded] at checked
    obtain ⟨faulty, lost⟩ := Prod.mk.inj (Option.some.inj checked)
    refine ⟨frontmatter, rfl, faulty, fun keeps => ?_⟩
    have first : IsFirst tightBody ⟨2, 4, "package:p".toList⟩ "package" "p" :=
      ⟨Line.given?_eq_some_iff.mp (by decide +kernel), [], [], rfl, by simp⟩
    have kept := keeps.recognized _ _ _ first (by decide)
    rw [lost] at kept
    cases kept

end LlmTxt.Frontmatter
