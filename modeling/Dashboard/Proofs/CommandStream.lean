import Dashboard.Command.Stream
import Dashboard.Proofs.JsonValues
import Dashboard.Proofs.StreamLines
import Dashboard.Proofs.TextEnds
import Mathlib
/-!
# Commands on lines

Commands that were read are written one on a line and read again as they were, whatever other lines
stand between them.

* `Command.IsProper` — the commands that are read, `IsProper.read?_print` — their text reads as the
  command.
* `Command.ofLine?_eq` — what a line holds is what is left of it without the white space at its
  ends, so a carriage return is no matter.
* `Command.commands_ofBytes` — a stream brings the commands on its lines.
* `commands_arrive` — those that were written to it.
-/

namespace Dashboard

open Json Json.Grammar

namespace Command

/-! ### What is read can be written -/

/-- Commands as they are read: arguments are sorted, in normal form and not nested too deep, their
    numbers are those of 64 bits and the doubles, and none has the name of a member that stands for
    something else. -/
structure IsProper (c : Command) : Prop where
  ascending : Members.Ascending c.arguments
  normal : ∀ m ∈ c.arguments, m.2.normal = m.2
  nested : ∀ m ∈ c.arguments, m.2.Nested Number.IsCanonical (depthLimit - 1)
  free : ∀ m ∈ c.arguments, m.1 ∉ "command" :: tabNames

variable {c : Command} {text : String}

/-- The commands that are read. -/
theorem isProper_of_read? (h : read? text = some c) : c.IsProper := by
  obtain ⟨x, hx, hc⟩ := Option.bind_eq_some_iff.mp h
  have hnested := nested_of_readRaw? hx
  cases x with
  | object ms =>
    simp only [ofJson?, Option.bind_eq_bind, Option.bind_eq_some_iff] at hc
    obtain ⟨_, -, name, -, _, -, tab, -, heq⟩ := hc
    cases heq
    -- Each argument is the normal form of a member that is not the name and not the tab.
    have hmember : ∀ m ∈ Members.sorted (normalMembers (ms.filter fun m =>
        !("command" :: tabNames).contains m.1)),
        ∃ k ∈ ms, k.1 ∉ "command" :: tabNames ∧ m = (k.1, k.2.normal) := by
      intro m hm
      have hnormal := Members.mem_of_mem_sorted hm
      rw [normalMembers_eq_map] at hnormal
      obtain ⟨k, hk, rfl⟩ := List.mem_map.mp hnormal
      obtain ⟨hmem, hfree⟩ := List.mem_filter.mp hk
      exact ⟨k, hmem, by simpa using hfree, rfl⟩
    refine ⟨Members.ascending_sorted _, fun m hm => ?_, fun m hm => ?_, fun m hm => ?_⟩
    · obtain ⟨k, -, -, rfl⟩ := hmember m hm
      exact normal_normal k.2
    · obtain ⟨k, hk, -, rfl⟩ := hmember m hm
      exact (hnested.members k hk).normal
    · obtain ⟨k, -, hfree, rfl⟩ := hmember m hm
      exact hfree
  | _ => cases hc

/-- In what is written for a command that was read the command is found as it is. -/
theorem IsProper.ofJson?_toJson (hc : c.IsProper) : ofJson? c.toJson = some c := by
  rw [Command.ofJson?_toJson c hc.free, normalMembers_of_normal hc.normal,
    Members.sorted_of_ascending hc.ascending]

/-- What is written for a command reads as it is if the doubles among its arguments do. -/
theorem IsProper.fits_toJson (hc : c.IsProper) (hd : c.DoublesReread) :
    c.toJson.Fits depthLimit := by
  refine .object fun m hm => ?_
  rcases List.mem_cons.mp hm with rfl | hm
  · exact .string _
  rcases List.mem_append.mp hm with hm | hm
  · cases htab : c.tab with
    | none =>
      rw [htab] at hm
      cases hm
    | some t =>
      rw [htab] at hm
      rw [List.mem_singleton.mp hm]
      exact .string _
  · exact (hc.nested m hm).fits (hd m hm)

/-- The text of a command reads as the command. -/
theorem IsProper.read?_print (hc : c.IsProper) (hd : c.DoublesReread) :
    read? c.toJson.print = some c := by
  rw [read?, readRaw?_print (hc.fits_toJson hd), Option.bind_some, hc.ofJson?_toJson]

end Command

/-! ### Lines -/

open Text

namespace Command

theorem read?_empty : read? "" = none := by cbv

/-- A line holds the command that is left of it without the white space at its ends. -/
theorem ofLine?_eq (line : String) : ofLine? line = read? (trim line) := by
  unfold ofLine? Line.read
  by_cases hblank : isBlankText line = true
  · rw [if_pos hblank, trim_of_isBlankText hblank, read?_empty]
  · rw [if_neg hblank]
    cases read? (trim line) <;> rfl

/-- The text of a command begins with a brace and ends with one. -/
theorem trim_print (c : Command) : trim c.toJson.print = c.toJson.print := by
  obtain ⟨cs, hcs⟩ : ∃ cs, c.toJson.print.toList = '\x7b' :: (cs ++ ['\x7d']) := by
    rw [toJson, print, String.toList_append, String.toList_append]
    exact ⟨_, rfl⟩
  rw [← String.toList_inj, toList_trim, hcs]
  refine trimChars_of_ends (fun c hc => ?_) (fun c hc => ?_)
  · cases hc
    rfl
  · rw [← List.cons_append, List.getLast?_concat] at hc
    cases hc
    rfl

/-- On the line that is written for a command the command is found. -/
theorem IsProper.ofLine?_print {c : Command} (hc : c.IsProper) (hd : c.DoublesReread) :
    ofLine? c.toJson.print = some c := by
  rw [ofLine?_eq, trim_print, hc.read?_print hd]

/-! ### Streams -/

/-- A line brings the command that is read from it, or none. -/
theorem Feed.commands_ofLine (line : String) :
    (Feed.ofLine line).commands = (ofLine? line).toList := by
  unfold Feed.ofLine ofLine?
  cases Line.read line <;> rfl

/-- What a line brings does not depend on a carriage return at its end. -/
theorem exists_dropReturn (s : String) (ending : Ending) :
    ∃ t, dropReturn (utf8 (s ++ ending.mark)) = utf8 t ∧ ofLine? t = ofLine? s := by
  have hmark : trim (s ++ ending.mark) = trim s := by
    cases ending with
    | lineFeed => rw [Ending.mark, String.append_empty]
    | returnLineFeed => exact trim_append_return s
  obtain ⟨t, hdrop, ht⟩ := dropReturn_utf8 (s ++ ending.mark)
  refine ⟨t, hdrop, ?_⟩
  rw [ofLine?_eq, ofLine?_eq, ← hmark]
  rcases ht with ht | ht
  · rw [ht]
  · rw [ht, trim_append_return]

/-- Lines bring the commands that are read from each, in their order. -/
theorem Feed.commands_ofLines (rows : List (Row × Ending)) :
    (Feed.ofLines (rows.map fun row => dropReturn (utf8 (row.1.text ++ row.2.mark)))).commands =
      rows.filterMap fun row => ofLine? row.1.text := by
  induction rows with
  | nil => rfl
  | cons row rows ih =>
    obtain ⟨t, hdrop, hline⟩ := exists_dropReturn row.1.text row.2
    rw [List.map_cons, Feed.ofLines, hdrop, ofUtf8?_utf8]
    show (Feed.ofLine t).commands ++ _ = _
    rw [ih, Feed.commands_ofLine, hline, List.filterMap_cons]
    cases ofLine? row.1.text <;> rfl

/-- A stream brings the commands on its lines. -/
theorem commands_ofBytes {rows : List (Row × Ending)} (h : ∀ row ∈ rows, '\n' ∉ row.1.text.toList) :
    (Feed.ofBytes (utf8 (written rows))).commands =
      rows.filterMap fun row => ofLine? row.1.text := by
  have hlines : utf8 (written rows) =
      (rows.map fun row => utf8 (row.1.text ++ row.2.mark)).flatMap (· ++ [lineFeed]) := by
    -- No row holds a line feed, so the stream is split where the rows end and nowhere else.
    have htexts : rows.map (fun row => row.1.text ++ row.2.mark ++ "\n") =
        (rows.map fun row => row.1.text ++ row.2.mark).map (· ++ "\n") := by
      rw [List.map_map]
      rfl
    rw [written, htexts, utf8_join, List.map_map]
    rfl
  rw [Feed.ofBytes, hlines, linesOf_lines, List.map_map]
  · exact Feed.commands_ofLines rows
  · intro line hline
    obtain ⟨row, hrow, rfl⟩ := List.mem_map.mp hline
    rw [lineFeed_mem_utf8, String.toList_append, List.mem_append, not_or]
    refine ⟨h row hrow, ?_⟩
    cases row.2 <;> decide

namespace Row

variable {row : Row}

/-- A faithful row stands on one line. -/
theorem IsFaithful.lineFeed_not_mem (h : row.IsFaithful) : '\n' ∉ row.text.toList := by
  cases row with
  | command c =>
    obtain ⟨⟨_, hread⟩, hd⟩ := h
    have hfits := (isProper_of_read? hread).fits_toJson hd
    intro hmem
    exact absurd (hfits.plain '\n' hmem) (by decide)
  | other s => exact h.1

/-- From the line of a faithful row its command is read. -/
theorem IsFaithful.ofLine?_text (h : row.IsFaithful) : ofLine? row.text = row.command? := by
  cases row with
  | command c =>
    obtain ⟨⟨_, hread⟩, hd⟩ := h
    exact (isProper_of_read? hread).ofLine?_print hd
  | other s =>
    rw [ofLine?_eq]
    rcases h.2 with hblank | hnone
    · show read? (trim s) = none
      rw [trim_of_isBlankText hblank, read?_empty]
    · exact hnone

end Row

end Command

open Command

/-- Commands that were read from some texts and are written one on a line, with either ending, come
    out of the stream as they are and in their order, whatever lines stand between them that are
    blank or, without the white space at their ends, hold no command. What is taken for granted is
    that the text of each double among their arguments reads as the double. -/
theorem commands_arrive (rows : List (Row × Ending)) (h : ∀ row ∈ rows, row.1.IsFaithful) :
    (Feed.ofBytes (utf8 (written rows))).commands = rows.filterMap fun row => row.1.command? := by
  rw [commands_ofBytes fun row hrow => (h row hrow).lineFeed_not_mem]
  exact List.filterMap_congr fun row hrow => (h row hrow).ofLine?_text

/-- Two commands among a blank line and a word. The arguments of the first are a text with a line
    feed, the double 2.5 and an integer. -/
theorem commands_arrive_between :
    let share : Binary64 := ⟨false, ⟨5 * 2 ^ 50, 1023⟩⟩
    let first : Command := ⟨"toggleCronJob", some "cron",
      [("limit", .int (-7)), ("name", .string "a\nb"), ("share", .array [.number (.float share)])]⟩
    let rows : List (Row × Ending) :=
      [ (.other "  ", .lineFeed)
      , (.command first, .returnLineFeed)
      , (.other "reload", .returnLineFeed)
      , (.command ⟨"refreshAll", none, []⟩, .lineFeed) ]
    (∀ row ∈ rows, row.1.IsFaithful) ∧
      (Feed.ofBytes (utf8 (written rows))).commands = [first, ⟨"refreshAll", none, []⟩] := by
  intro share first rows
  let n : Numeral := ⟨['2'], ['5'], none, List.forall_mem_singleton.mpr rfl,
    List.forall_mem_singleton.mpr rfl, .inr ⟨'2', [], rfl, by decide⟩⟩
  -- Half of five is written in two digits, few enough to read back.
  have hcanonical : share.magnitude.IsCanonical :=
    ⟨by decide +kernel, by decide +kernel, .inr (by decide +kernel)⟩
  have htext : share.text.toList = Number.signChars false ++ n.chars := by decide +kernel
  have hshort : n.IsShort := ⟨by decide +kernel, by decide +kernel, by decide +kernel⟩
  have hshare := Binary64.rereads_of_isShort hcanonical htext hshort
  have hfirst : first.IsProper :=
    { ascending := by
        rw [Members.Ascending]
        decide
      normal := by simp [first, normal, normalItems, Json.int]
      nested := by
        simp only [first, List.forall_mem_cons]
        refine ⟨.number ⟨by decide, by decide⟩, .string _, .array ?_, List.forall_mem_nil _⟩
        exact List.forall_mem_singleton.mpr (.number hcanonical)
      free := by decide }
  have hdoubles : first.DoublesReread := by
    intro m hm x hx
    simp only [first, List.mem_cons, List.not_mem_nil, or_false] at hm
    rcases hm with rfl | rfl | rfl
    · cases hx
    · cases hx
    · rwa [List.mem_singleton.mp hx]
  have hlast : Command.read? " \x7b\"command\":\"refreshAll\",\"tabId\":null\x7d" =
      some ⟨"refreshAll", none, []⟩ := by cbv
  have hother : Command.read? (trim "reload") = none := by cbv
  -- A blank line, a command, a line that is none, and a command without arguments.
  have hrows : ∀ row ∈ rows, row.1.IsFaithful := by
    intro row hrow
    simp only [rows, List.mem_cons, List.not_mem_nil, or_false] at hrow
    rcases hrow with rfl | rfl | rfl | rfl
    · exact ⟨by decide, .inl rfl⟩
    · exact ⟨⟨_, hfirst.read?_print hdoubles⟩, hdoubles⟩
    · exact ⟨by decide, .inr hother⟩
    · exact ⟨⟨_, hlast⟩, List.forall_mem_nil _⟩
  exact ⟨hrows, commands_arrive rows hrows⟩

/-- A line that is no command as it stands brings one all the same if only white space at its ends
    keeps it from being one: here a no-break space. -/
theorem blank_hides_command :
    let line := "\u00a0\x7b\"command\":\"reload\"\x7d"
    '\n' ∉ line.toList ∧ Command.read? line = none ∧
      (Feed.ofBytes (utf8 (written [(.other line, .lineFeed)]))).commands = [⟨"reload", none, []⟩] := by
  intro line
  have hline : '\n' ∉ line.toList := by decide
  have hfound : Command.read? (trim line) = some ⟨"reload", none, []⟩ := by cbv
  have hbrought : ofLine? line = some ⟨"reload", none, []⟩ := by rw [ofLine?_eq, hfound]
  refine ⟨hline, by cbv, ?_⟩
  rw [commands_ofBytes (by simpa [Row.text] using hline)]
  exact List.filterMap_cons_some hbrought

end Dashboard
