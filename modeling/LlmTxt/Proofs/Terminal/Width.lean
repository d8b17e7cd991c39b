/-
This file counts the places of texts that are put together. A text takes at least the places of
what it begins with, and those of the words that it is made of, because what stands before a
character can only widen it. A space takes one place, unless a joiner swallows it. The clusters of a
text are the text, so cutting it adds nothing but spaces.
-/

import LlmTxt.Proofs.Text.Encoding
import LlmTxt.Terminal.Width

namespace LlmTxt.Terminal

open Text

/-! ### One character -/

/-- A character that is neither a joiner nor a selector takes its own places. -/
theorem placesAfter_cons {character : Char} (noJoiner : character ≠ '\u200d')
    (noSelector : character ≠ '\ufe0f') (last : Option Char) (rest : List Char) :
    placesAfter last (character :: rest) = placesOf character +
      placesAfter (if placesOf character = 0 then last else some character) rest := by
  rw [placesAfter]
  · exact fun same _ => noJoiner same
  · exact fun _ _ same _ => noJoiner same
  · exact noSelector

theorem placesAfter_space (last : Option Char) (rest : List Char) :
    placesAfter last (' ' :: rest) = 1 + placesAfter (some ' ') rest :=
  placesAfter_cons (by decide) (by decide) last rest

theorem placesAfter_spaces (last : Option Char) (count : Nat) :
    placesAfter last (List.replicate count ' ') = count := by
  induction count generalizing last with
  | zero => rfl
  | succ count inductionHypothesis =>
    rw [List.replicate_succ, placesAfter_space, inductionHypothesis, Nat.add_comm]

/-! ### What stands before a text -/

/-- A joiner is either the last character or has one behind it to swallow. -/
theorem ne_joiner {character : Char} {rest : List Char}
    (last : character = '\u200d' → rest = [] → False)
    (joins : ∀ joined behind, character = '\u200d' → rest = joined :: behind → False) :
    character ≠ '\u200d' := by
  intro same
  cases rest with
  | nil => exact last same rfl
  | cons joined behind => exact joins joined behind same rfl

/-- Before a text counts only whether a selector at its beginning has something to widen. -/
theorem placesAfter_le_of_covers {first second : Option Char} (text : List Char)
    (covers : first.any emojiRanges.covers = true → second.any emojiRanges.covers = true) :
    placesAfter first text ≤ placesAfter second text := by
  fun_induction placesAfter first text generalizing second with
  | case1 => exact Nat.zero_le _
  | case2 => exact Nat.zero_le _
  | case3 first joined rest inductionHypothesis => exact inductionHypothesis covers
  | case4 first rest _ =>
    rw [placesAfter]
    refine Nat.add_le_add_right ?_ _
    split
    · rename_i widens
      exact Nat.le_of_eq (if_pos (covers widens)).symm
    · exact Nat.zero_le _
  | case5 first character rest last joins noSelector count =>
    rename_i inductionHypothesis
    rw [placesAfter_cons (ne_joiner last joins) noSelector]
    refine Nat.add_le_add_left ?_ _
    by_cases narrow : count = 0
    · rw [if_pos narrow] at inductionHypothesis
      rw [if_pos narrow, if_pos narrow]
      exact inductionHypothesis covers
    · exact Nat.le_of_eq (by rw [if_neg narrow, if_neg narrow])

theorem places_le_placesAfter (last : Option Char) (text : List Char) :
    places text ≤ placesAfter last text :=
  placesAfter_le_of_covers text nofun

/-- Spaces do not widen what stands behind them. -/
theorem places_spaces_append_le (count : Nat) (text : List Char) :
    places (List.replicate count ' ' ++ text) ≤ count + places text := by
  have behind : ∀ last : Option Char, last.any emojiRanges.covers = false →
      placesAfter last (List.replicate count ' ' ++ text) ≤ count + places text := by
    induction count with
    | zero =>
      intro last narrow
      rw [List.replicate_zero, List.nil_append, Nat.zero_add]
      exact placesAfter_le_of_covers text fun widens => by rw [narrow] at widens; cases widens
    | succ count inductionHypothesis =>
      intro last narrow
      have rest := inductionHypothesis (some ' ') (by decide +kernel)
      rw [List.replicate_succ, List.cons_append, placesAfter_space]
      omega
  exact behind none rfl

/-! ### What stands behind a text -/

theorem placesAfter_le_append (last : Option Char) (front back : List Char) :
    placesAfter last front ≤ placesAfter last (front ++ back) := by
  fun_induction placesAfter last front with
  | case1 => exact Nat.zero_le _
  | case2 => exact Nat.zero_le _
  | case3 last joined rest inductionHypothesis => exact inductionHypothesis
  | case4 last rest inductionHypothesis => exact Nat.add_le_add_left inductionHypothesis _
  | case5 last character rest ends joins noSelector count inductionHypothesis =>
    rw [List.cons_append, placesAfter_cons (ne_joiner ends joins) noSelector]
    exact Nat.add_le_add_left inductionHypothesis _

theorem getLast?_ne_of_cons {first character : Char} {rest : List Char}
    (free : (first :: rest).getLast? ≠ some character) : rest.getLast? ≠ some character := by
  cases rest with
  | nil => exact nofun
  | cons second rest => rwa [List.getLast?_cons_cons] at free

/-- A text takes the places of its two parts at least, unless a joiner ties them together. -/
theorem placesAfter_add_places_le (last : Option Char) {front : List Char}
    (free : front.getLast? ≠ some '\u200d') (back : List Char) :
    placesAfter last front + places back ≤ placesAfter last (front ++ back) := by
  fun_induction placesAfter last front with
  | case1 last =>
    rw [Nat.zero_add]
    exact places_le_placesAfter last back
  | case2 => exact absurd rfl free
  | case3 last joined rest inductionHypothesis =>
    exact inductionHypothesis (getLast?_ne_of_cons (getLast?_ne_of_cons free))
  | case4 last rest inductionHypothesis =>
    rw [List.cons_append, placesAfter, Nat.add_assoc]
    exact Nat.add_le_add_left (inductionHypothesis (getLast?_ne_of_cons free)) _
  | case5 last character rest ends joins noSelector count inductionHypothesis =>
    rw [List.cons_append, placesAfter_cons (ne_joiner ends joins) noSelector, Nat.add_assoc]
    exact Nat.add_le_add_left (inductionHypothesis (getLast?_ne_of_cons free)) _

/-- Every space takes a place at most. -/
theorem placesAfter_append_spaces_le (last : Option Char) (text : List Char) (count : Nat) :
    placesAfter last (text ++ List.replicate count ' ') ≤ placesAfter last text + count := by
  fun_induction placesAfter last text with
  | case1 last =>
    exact Nat.le_of_eq (by rw [List.nil_append, placesAfter_spaces, Nat.zero_add])
  | case2 last =>
    cases count with
    | zero => exact Nat.le_refl _
    | succ count =>
      rw [List.replicate_succ, List.singleton_append, placesAfter, placesAfter_spaces]
      omega
  | case3 last joined rest inductionHypothesis => exact inductionHypothesis
  | case4 last rest inductionHypothesis =>
    rw [List.cons_append, placesAfter, Nat.add_assoc]
    exact Nat.add_le_add_left inductionHypothesis _
  | case5 last character rest ends joins noSelector occupied inductionHypothesis =>
    rw [List.cons_append, placesAfter_cons (ne_joiner ends joins) noSelector, Nat.add_assoc]
    exact Nat.add_le_add_left inductionHypothesis _

/-! ### Clusters -/

theorem Cluster.text_push (cluster : Cluster) (character : Char) (count : Nat) :
    (cluster.push character count).text = cluster.text ++ [character] :=
  List.reverse_cons

theorem flatMap_clustersBehind (cluster : Cluster) (last : Option Char) (text : List Char) :
    (clustersBehind cluster last text).flatMap Cluster.text = cluster.text ++ text := by
  fun_induction clustersBehind cluster last text with
  | case1 => simp
  | case2 => simp [Cluster.text_push]
  | case3 cluster last joined rest inductionHypothesis
  | case4 cluster last rest _ inductionHypothesis
  | case5 cluster last rest _ inductionHypothesis
  | case6 cluster last character rest _ _ _ _ inductionHypothesis =>
    simp [inductionHypothesis, Cluster.text_push]
  | case7 cluster last character rest _ _ _ _ inductionHypothesis =>
    rw [List.flatMap_cons, inductionHypothesis]
    rfl

/-- The clusters of a text are the text. -/
theorem flatMap_clusters (text : List Char) : (clusters text).flatMap Cluster.text = text := by
  cases text with
  | nil => rfl
  | cons character rest => exact flatMap_clustersBehind _ _ rest

theorem isWhole_takeClusters {width : Nat} {clusters : List Cluster}
    (whole : ∀ cluster ∈ clusters, IsWhole cluster.text) :
    IsWhole (takeClusters width clusters) := by
  fun_induction takeClusters width clusters with
  | case1 => exact nofun
  | case2 => exact nofun
  | case3 width cluster rest _ _ inductionHypothesis =>
    obtain ⟨own, others⟩ := List.forall_mem_cons.mp whole
    exact isWhole_append.mpr ⟨own, inductionHypothesis others⟩
  | case4 => decide

theorem isWhole_fit {text : List Char} (whole : IsWhole text) (width : Nat) :
    IsWhole (fit width text) := by
  unfold fit
  split_ifs
  · exact isWhole_append.mpr ⟨whole, isWhole_replicate (by decide) _⟩
  · rw [← flatMap_clusters text, isWhole_flatMap] at whole
    exact isWhole_takeClusters whole

end LlmTxt.Terminal
