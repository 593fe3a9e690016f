import AgentCanvas.Proofs.ForStd.List
import AgentCanvas.Proofs.Text.Trim
import AgentCanvas.Settings.Basic

/-!
# Lists of origins

The origins that the service answers are the pieces of one text between its commas, trimmed and
without those that are blank; the star that stands for all origins is no exception to this. Such a
list is a normal form: however it is written down again, with blanks around the origins and blank
pieces between them, it is read back as it was.

## Key definitions

- `Settings.IsOrigin`: a text that can be listed.
- `Settings.Listed`: pieces that list origins, with blanks put in anywhere.

## Key results

- `Settings.corsOrigins_eq_pieces`: the star is read like any other origin.
- `Settings.pieces_intercalate`: the pieces of a text that is put together from them.
- `Settings.filter_map_trim_of_listed`: blanks that are put in are taken away again.
- `Settings.corsOrigins_normalForm`: the origins are in normal form.
-/

namespace AgentCanvas.Settings

open Text (isBlank isBlankText trim)

/-- A text that can be listed as an origin: it is not empty, holds no comma and neither begins nor
ends with a blank. -/
structure IsOrigin (origin : String) : Prop where
  nonempty : origin ≠ ""
  comma_not_mem : ',' ∉ origin.toList
  unpadded : Text.Unpadded isBlank origin.toList

/-- Pieces that list origins in order: blanks may stand around each origin, and blank pieces
anywhere. -/
inductive Listed : List String → List String → Prop
  | nil : Listed [] []
  | blank {piece : String} {origins pieces : List String} : isBlankText piece →
      Listed origins pieces → Listed origins (piece :: pieces)
  | origin (front origin back : String) {origins pieces : List String} :
      isBlankText front → isBlankText back → Listed origins pieces →
        Listed (origin :: origins) ((front ++ origin ++ back) :: pieces)

/-! ## Blanks at the ends -/

theorem comma_not_mem_of_isBlankText {s : String} (h : isBlankText s) : ',' ∉ s.toList :=
  fun hmem => absurd (Text.isBlankText_iff.mp h ',' hmem) (by decide)

/-- The pieces that are kept of those between the commas. -/
theorem pieces_eq_of_splitOn {s : String} {parts : List (List Char)}
    (h : s.toList.splitOn ',' = parts) :
    pieces s = ((parts.map String.ofList).map trim).filter (· ≠ "") := by
  rw [pieces, h, List.map_map]
  rfl

theorem pieces_append_of_isBlankText (s : String) {back : String} (h : isBlankText back) :
    pieces (s ++ back) = pieces s := by
  obtain ⟨parts, last, hs, hback⟩ :=
    List.exists_splitOn_append_of_not_mem (comma_not_mem_of_isBlankText h) s.toList
  have hlast : trim (String.ofList (last ++ back.toList)) = trim (String.ofList last) := by
    have htrim := Text.trim_append (show isBlankText "" from rfl) h (String.ofList last)
    rwa [String.empty_append, ← String.ofList_toList (s := back), ← String.ofList_append] at htrim
  rw [pieces_eq_of_splitOn hs, pieces_eq_of_splitOn (String.toList_append ▸ hback)]
  simp only [List.map_append, List.map_cons, List.map_nil, hlast]

theorem pieces_isBlankText_append (s : String) {front : String} (h : isBlankText front) :
    pieces (front ++ s) = pieces s := by
  have hfront := List.splitOn_append_of_not_mem (comma_not_mem_of_isBlankText h) s.toList
  cases hs : s.toList.splitOn ',' with
  | nil =>
    -- a text has one piece at least
    have hlength := List.length_splitOn ',' s.toList
    simp [hs] at hlength
  | cons first parts =>
    rw [hs, List.modifyHead_cons] at hfront
    have hfirst : trim (String.ofList (front.toList ++ first)) = trim (String.ofList first) := by
      have htrim := Text.trim_append h (show isBlankText "" from rfl) (String.ofList first)
      rwa [String.append_empty, ← String.ofList_toList (s := front), ← String.ofList_append]
        at htrim
    rw [pieces_eq_of_splitOn hs, pieces_eq_of_splitOn (String.toList_append ▸ hfront)]
    simp only [List.map_cons, hfirst]

/-- Blanks at the ends of a list do not count. -/
theorem pieces_trim (s : String) : pieces (trim s) = pieces s := by
  obtain ⟨front, back, hfront, hback, heq⟩ := Text.exists_eq_append_trim s
  calc pieces (trim s)
    _ = pieces (front ++ trim s) := (pieces_isBlankText_append _ hfront).symm
    _ = pieces (front ++ trim s ++ back) := (pieces_append_of_isBlankText _ hback).symm
    _ = pieces s := by rw [← heq]

/-- The star on its own is read like any other list. -/
theorem corsOrigins_eq_pieces (s : Settings) : s.corsOrigins = pieces s.corsAllowedOrigins := by
  have hstar : pieces "*" = ["*"] := by decide
  rw [← pieces_trim]
  by_cases h : trim s.corsAllowedOrigins = "*"
  · simp only [corsOrigins, h, hstar, if_true]
  · simp only [corsOrigins, h, if_false]

/-! ## Pieces -/

/-- The pieces of a text that is put together from them. -/
theorem pieces_intercalate {parts : List String} (h : ∀ part ∈ parts, ',' ∉ part.toList) :
    pieces (",".intercalate parts) = (parts.filter (!isBlankText ·)).map trim := by
  have hkept : (parts.map trim).filter (· ≠ "") = (parts.filter (!isBlankText ·)).map trim := by
    rw [List.filter_map]
    refine congrArg (List.map trim) (List.filter_congr fun part _ => ?_)
    simp [Text.trim_eq_empty_iff]
  rw [← hkept]
  cases parts with
  | nil => decide
  | cons first rest =>
    have hsplit : (",".intercalate (first :: rest)).toList.splitOn ',' =
        (first :: rest).map String.toList := by
      rw [String.toList_intercalate]
      exact List.splitOn_intercalate ',' (List.forall_mem_map.mpr h) (by simp)
    rw [pieces_eq_of_splitOn hsplit, List.map_map (g := String.ofList)]
    simp [Function.comp_def]

/-- Every text is put together from pieces without commas. -/
theorem exists_eq_intercalate (s : String) :
    ∃ parts, (∀ part ∈ parts, ',' ∉ part.toList) ∧ s = ",".intercalate parts := by
  refine ⟨(s.toList.splitOn ',').map String.ofList, ?_, ?_⟩
  · simp only [List.forall_mem_map, String.toList_ofList]
    exact fun part => List.not_mem_of_mem_splitOn
  · apply String.toList_injective
    simp [Function.comp_def, List.intercalate_splitOn]

/-- A trimmed piece that is not blank can be listed. -/
theorem isOrigin_trim {part : String} (hcomma : ',' ∉ part.toList)
    (hblank : isBlankText part = false) : IsOrigin (trim part) where
  nonempty hempty := by simp [Text.trim_eq_empty_iff.mp hempty] at hblank
  comma_not_mem hmem := by
    obtain ⟨front, back, -, -, heq⟩ := Text.exists_eq_append_trim part
    rw [heq] at hcomma
    simp [hmem] at hcomma
  unpadded := by
    rw [Text.toList_trim]
    exact Text.unpadded_trimWhile isBlank _

/-! ## Listed origins -/

namespace Listed

variable {origins pieces : List String}

/-- Neither origins nor blanks hold commas. -/
theorem comma_not_mem (h : Listed origins pieces) (horigins : ∀ origin ∈ origins, IsOrigin origin) :
    ∀ piece ∈ pieces, ',' ∉ piece.toList := by
  induction h with
  | nil => exact List.forall_mem_nil _
  | blank hblank _ ih =>
    exact List.forall_mem_cons.mpr ⟨comma_not_mem_of_isBlankText hblank, ih horigins⟩
  | origin front origin back hfront hback _ ih =>
    obtain ⟨horigin, hrest⟩ := List.forall_mem_cons.mp horigins
    refine List.forall_mem_cons.mpr ⟨?_, ih hrest⟩
    simp [comma_not_mem_of_isBlankText hfront, horigin.comma_not_mem,
      comma_not_mem_of_isBlankText hback]

/-- Blanks that were put in are taken away again. -/
theorem map_trim_filter (h : Listed origins pieces)
    (horigins : ∀ origin ∈ origins, IsOrigin origin) :
    (pieces.filter (!isBlankText ·)).map trim = origins := by
  induction h with
  | nil => rfl
  | blank hblank _ ih => rw [List.filter_cons_of_neg (by simp [hblank]), ih horigins]
  | origin front origin back hfront hback _ ih =>
    obtain ⟨horigin, hrest⟩ := List.forall_mem_cons.mp horigins
    have htrim : trim (front ++ origin ++ back) = origin := by
      rw [Text.trim_append hfront hback, Text.trim_eq_self_iff.mpr horigin.unpadded]
    have hkept : isBlankText (front ++ origin ++ back) = false := by
      rw [← Bool.not_eq_true, ← Text.trim_eq_empty_iff, htrim]
      exact horigin.nonempty
    rw [List.filter_cons_of_pos (by simp [hkept]), List.map_cons, htrim, ih hrest]

/-- Listed origins are read back. -/
theorem pieces_intercalate_eq (h : Listed origins pieces)
    (horigins : ∀ origin ∈ origins, IsOrigin origin) :
    Settings.pieces (",".intercalate pieces) = origins := by
  rw [pieces_intercalate (h.comma_not_mem horigins), h.map_trim_filter horigins]

end Listed

/-! ## The normal form -/

/-- The origins that the service answers can all be listed. They are, in order, the trimmed pieces
between the commas of the setting that are not blank, also where the setting is a star. Listing them
with commas again gives a setting with the same origins, whatever blanks are put around them and
whatever blank pieces between them. -/
theorem corsOrigins_normalForm (s : Settings) :
    (∀ origin ∈ s.corsOrigins, IsOrigin origin) ∧
    (∃ pieces, (∀ piece ∈ pieces, ',' ∉ piece.toList) ∧
      s.corsAllowedOrigins = ",".intercalate pieces ∧
      s.corsOrigins = (pieces.filter (!isBlankText ·)).map trim) ∧
    ∀ pieces, Listed s.corsOrigins pieces →
      corsOrigins { s with corsAllowedOrigins := ",".intercalate pieces } = s.corsOrigins := by
  obtain ⟨parts, hcommas, hvalue⟩ := exists_eq_intercalate s.corsAllowedOrigins
  have hparts : s.corsOrigins = (parts.filter (!isBlankText ·)).map trim := by
    rw [corsOrigins_eq_pieces, hvalue, pieces_intercalate hcommas]
  have horigins : ∀ origin ∈ s.corsOrigins, IsOrigin origin := by
    rw [hparts, List.forall_mem_map]
    intro part hpart
    obtain ⟨hmem, hblank⟩ := List.mem_filter.mp hpart
    exact isOrigin_trim (hcommas part hmem) (by simpa using hblank)
  refine ⟨horigins, ⟨parts, hcommas, hvalue, hparts⟩, fun pieces hlisted => ?_⟩
  rw [corsOrigins_eq_pieces]
  exact hlisted.pieces_intercalate_eq horigins

/-- Settings with a star among the origins. -/
def starred : Settings :=
  { builtIn with corsAllowedOrigins := " http://a ,\t,*," }

/-- The star is listed with another origin, and blanks of any kind around the two are taken away. -/
theorem corsOrigins_normalForm_starred : starred.corsOrigins = ["http://a", "*"] ∧
    Listed starred.corsOrigins ["\u3000", "\x1fhttp://a", "", "*\u2029"] ∧
    corsOrigins { starred with
      corsAllowedOrigins := ",".intercalate ["\u3000", "\x1fhttp://a", "", "*\u2029"] } =
        ["http://a", "*"] := by
  have horigins : starred.corsOrigins = ["http://a", "*"] := by decide
  have hlisted : Listed starred.corsOrigins ["\u3000", "\x1fhttp://a", "", "*\u2029"] := by
    rw [horigins]
    exact .blank (by decide) (.origin "\x1f" "http://a" "" (by decide) (by decide)
      (.blank (by decide) (.origin "" "*" "\u2029" (by decide) (by decide) .nil)))
  exact ⟨horigins, hlisted, ((corsOrigins_normalForm starred).2.2 _ hlisted).trans horigins⟩

end AgentCanvas.Settings
