import Dashboard.Panel.Received
import Dashboard.Proofs.JsonMembers
import Dashboard.Proofs.JsonReading
import Dashboard.Proofs.StreamLines
/-!
# Frames on lines

Whatever texts a frame holds, it is written on one line, and the view embedding the dashboard reads
the frame from that line.

* `Frame.fits` — the reader takes what is written for a frame.
* `Frame.ofJson?_toJson` — it finds all that the frame holds.
* `frames_are_lines` — the same of all that is written.
-/

namespace Dashboard

open Json Json.Grammar Text

/-! ### What is written can be read -/

/-- A badge, or null, is nested one deep. -/
theorem Badge.fits (b : Option Badge) (depth : Nat) : (optionToJson b).Fits (depth + 1) := by
  cases b with
  | none => exact .null
  | some b =>
    refine .object fun m hm => ?_
    simp only [List.mem_cons, List.not_mem_nil, or_false] at hm
    rcases hm with rfl | rfl
    · exact .string _
    · exact .string _

namespace Frame

/-- The summary of a tab is nested no deeper than two levels. -/
theorem Summary.fits (s : Summary) (depth : Nat) : s.toJson.Fits (depth + 2) := by
  refine .object fun m hm => ?_
  simp only [List.mem_cons, List.not_mem_nil, or_false] at hm
  rcases hm with rfl | rfl | rfl | rfl
  · exact .string _
  · exact .string _
  · exact .string _
  · exact Badge.fits s.badge depth

/-- A frame is nested four deep at most. -/
theorem fits (f : Frame) (depth : Nat) : f.toJson.Fits (depth + 4) := by
  cases f with
  | render r =>
    refine .object fun m hm => ?_
    simp only [Rendering.members, List.mem_cons, List.not_mem_nil, or_false] at hm
    rcases hm with rfl | rfl | rfl | rfl | rfl | rfl
    · exact .string _
    · exact .string _
    · exact .string _
    · exact .string _
    · exact .string _
    · exact Badge.fits r.badge (depth + 2)
  | bar tabs active =>
    refine .object fun m hm => ?_
    simp only [List.mem_cons, List.not_mem_nil, or_false] at hm
    rcases hm with rfl | rfl | rfl
    · exact .string _
    · -- The summaries stand two levels deeper than the frame.
      refine .array fun x hx => ?_
      obtain ⟨s, -, rfl⟩ := List.mem_map.mp hx
      exact s.fits depth
    · cases active with
      | none => exact .null
      | some id => exact .string id
  | document html =>
    refine .object fun m hm => ?_
    simp only [List.mem_cons, List.not_mem_nil, or_false] at hm
    rcases hm with rfl | rfl
    · exact .string _
    · exact .string _

/-! ### All that a frame holds is found -/

end Frame

/-- A style is found by its name. -/
theorem Badge.ofName?_name (s : Badge.Style) : Style.ofName? s.name = some s := by
  cases s <;> rfl

/-- A badge, or none, is found. -/
theorem Badge.orNull?_optionToJson (b : Option Badge) :
    Frame.orNull? ofJson? (optionToJson b) = some b := by
  cases b with
  | none => rfl
  | some b =>
    have hstyle := Badge.ofName?_name b.style
    have hbadge : ofJson? b.toJson = some b := by
      simp [ofJson?, toJson, Json.member?, Json.string?, hstyle]
    show (ofJson? b.toJson).map some = _
    rw [hbadge]
    rfl

namespace Frame

/-- The summary of a tab reads back. -/
theorem Summary.ofJson?_toJson (s : Summary) : ofJson? s.toJson = some s := by
  have hbadge := Badge.orNull?_optionToJson s.badge
  simp [ofJson?, toJson, textIn?, badgeIn?, Json.member?, Json.string?, hbadge]

/-- The buttons are found in their order. -/
theorem summariesIn?_map (tabs : List Summary) :
    summariesIn? (.array (tabs.map Summary.toJson)) = some tabs := by
  show (tabs.map Summary.toJson).mapM Summary.ofJson? = some tabs
  induction tabs with
  | nil => rfl
  | cons s tabs ih =>
    rw [List.map_cons, List.mapM_cons, Summary.ofJson?_toJson, ih]
    rfl

theorem orNull?_textOrNull (s : Option String) : orNull? Json.string? (textOrNull s) = some s := by
  cases s <;> rfl

/-- In what is written for a frame the frame is found. -/
theorem ofJson?_toJson (f : Frame) : ofJson? f.toJson = some f := by
  cases f with
  | render r =>
    have hbadge := Badge.orNull?_optionToJson r.badge
    simp [ofJson?, toJson, Rendering.ofJson?, Rendering.members, textIn?, badgeIn?, Json.member?,
      Json.string?, hbadge]
  | bar tabs active =>
    have htabs := summariesIn?_map tabs
    have hactive := orNull?_textOrNull active
    simp [ofJson?, toJson, textIn?, Json.member?, Json.string?, htabs, hactive]
  | document html => simp [ofJson?, toJson, textIn?, Json.member?, Json.string?]

/-! ### Lines -/

/-- A frame reads from its text. -/
theorem readRaw?_print (f : Frame) : readRaw? f.toJson.print = some f.toJson :=
  Json.readRaw?_print (f.fits 123)

/-- The text of a frame stands on one line. -/
theorem lineFeed_not_mem (f : Frame) : lineFeed ∉ utf8 f.toJson.print := by
  rw [lineFeed_mem_utf8]
  intro hmem
  have hplain := (f.fits 123).plain '\n' hmem
  exact absurd hplain (by decide)

/-- All that is written for some frames is their texts, each with a line feed behind it. -/
theorem utf8_lines (fs : List Frame) :
    utf8 (lines fs) = (fs.map fun f => utf8 f.toJson.print).flatMap (· ++ [lineFeed]) := by
  have htexts : fs.map line = (fs.map fun f => f.toJson.print).map (· ++ "\n") := by
    rw [List.map_map]
    rfl
  rw [lines, htexts, utf8_join, List.map_map]
  rfl

end Frame

/-- What is written for some frames splits at its line feeds into one line for each frame, in their
    order, and nothing more. Each line holds the members of its frame, and the frame is found in
    them, whatever characters its texts hold. -/
theorem frames_are_lines (fs : List Frame) :
    let pieces := (utf8 (Frame.lines fs)).splitOn lineFeed
    pieces.length = fs.length + 1 ∧ pieces.getLast? = some [] ∧
      pieces.dropLast.map (fun line => (ofUtf8? line).bind readRaw?) =
        fs.map (fun f => some f.toJson) ∧
      pieces.dropLast.map (fun line => (ofUtf8? line).bind Frame.read?) = fs.map some := by
  intro pieces
  -- No text of a frame holds a line feed, so the pieces between line feeds are those texts.
  have hpieces : pieces = fs.map (fun f => utf8 f.toJson.print) ++ [[]] := by
    show (utf8 (Frame.lines fs)).splitOn lineFeed = _
    rw [Frame.utf8_lines]
    refine splitOn_lines fun line hline => ?_
    obtain ⟨f, -, rfl⟩ := List.mem_map.mp hline
    exact f.lineFeed_not_mem
  have hread (f : Frame) : (ofUtf8? (utf8 f.toJson.print)).bind readRaw? = some f.toJson := by
    rw [ofUtf8?_utf8, Option.bind_some, f.readRaw?_print]
  have hframe (f : Frame) : (ofUtf8? (utf8 f.toJson.print)).bind Frame.read? = some f := by
    rw [ofUtf8?_utf8, Option.bind_some, Frame.read?, f.readRaw?_print, Option.bind_some,
      f.ofJson?_toJson]
  rw [hpieces, List.dropLast_concat, List.map_map, List.map_map]
  refine ⟨by simp, by simp, List.map_congr_left fun f _ => hread f, ?_⟩
  exact List.map_congr_left fun f _ => hframe f

end Dashboard
