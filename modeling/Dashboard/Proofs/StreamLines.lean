import Dashboard.Text.Lines
/-!
# Lines of text in a stream of bytes

In UTF-8 the byte of a line feed stands for a line feed and for nothing else. So a text without
line feeds that is written with one behind it is a line of the stream, and the line holds the text.

* `Text.utf8_eq` — the bytes of a text are those of its characters.
* `Text.ofUtf8?_utf8` — they hold the text.
* `Text.lineFeed_mem_utf8`, `Text.dropReturn_utf8` — line feeds, and a carriage return at the end.
* `Text.splitOn_lines`, `Text.linesOf_lines` — lines are found again.
* `Text.utf8_join` — the bytes of texts that are written one on a line.
-/

namespace Dashboard.Text

/-! ### The bytes of a text -/

/-- The loop that lists bytes, at any place of it. -/
theorem toList_loop (bytes : ByteArray) (i : Nat) (before : List UInt8) :
    ByteArray.toList.loop bytes i before = before.reverse ++ bytes.data.toList.drop i := by
  induction i, before using ByteArray.toList.loop.induct bytes with
  | case1 i before hi ih =>
    have hlt : i < bytes.data.toList.length := by simpa using hi
    have hget : bytes.get! i = bytes.data.toList[i] := by
      rw [ByteArray.get!, Array.getElem_toList]
      exact getElem!_pos bytes.data i (by simpa using hi)
    rw [ByteArray.toList.loop, if_pos hi, ih, hget, List.reverse_cons, List.append_assoc,
      List.singleton_append, List.drop_eq_getElem_cons hlt]
  | case2 i before hi =>
    have hle : bytes.data.toList.length ≤ i := by simpa using hi
    rw [ByteArray.toList.loop, if_neg hi, List.drop_eq_nil_of_le hle, List.append_nil]

/-- The bytes of an array, one after the other. -/
theorem toList_byteArray (bytes : ByteArray) : bytes.toList = bytes.data.toList := by
  rw [ByteArray.toList, toList_loop]
  rfl

/-- The bytes of a text are those of its characters. -/
theorem utf8_eq (s : String) : utf8 s = s.toList.flatMap String.utf8EncodeChar := by
  have hbytes : s.toUTF8 = s.toList.utf8Encode := String.utf8Encode_toList.symm
  rw [utf8, toList_byteArray, hbytes, List.utf8Encode, List.data_toByteArray]

@[simp] theorem utf8_append (s t : String) : utf8 (s ++ t) = utf8 s ++ utf8 t := by
  rw [utf8_eq, utf8_eq, utf8_eq, String.toList_append, List.flatMap_append]

/-- The bytes of a text hold the text. -/
theorem ofUtf8?_utf8 (s : String) : ofUtf8? (utf8 s) = some s := by
  have hbytes : (⟨(utf8 s).toArray⟩ : ByteArray) = s.toByteArray := by
    rw [utf8, toList_byteArray]
    rfl
  rw [ofUtf8?, hbytes, String.fromUTF8?, dif_pos s.isValidUTF8]
  rfl

/-! ### Bytes that stand for themselves -/

/-- A byte is the one that stands for a number if it is the number. -/
theorem eq_ofNat_iff {b : UInt8} {n : Nat} (hn : n < 256) : b = UInt8.ofNat n ↔ b.toNat = n := by
  rw [← UInt8.toNat_inj, UInt8.toNat_ofNat', Nat.mod_eq_of_lt hn]

/-- A byte below 128 among those of a character is the character. -/
theorem mem_utf8EncodeChar {b : UInt8} (hb : b.toNat < 0x80) {c : Char} :
    b ∈ String.utf8EncodeChar c ↔ c.toNat = b.toNat := by
  have hval : c.val.toNat = c.toNat := rfl
  unfold String.utf8EncodeChar
  dsimp only
  rw [hval]
  split
  · -- A character below 128 is its own byte.
    rw [List.mem_singleton, eq_ofNat_iff (by omega)]
    exact eq_comm
  · -- All bytes of the other characters are 128 or above.
    split
    · simp only [List.mem_cons, List.not_mem_nil, or_false]
      rw [eq_ofNat_iff (by omega), eq_ofNat_iff (by omega)]
      omega
    · split
      · simp only [List.mem_cons, List.not_mem_nil, or_false]
        rw [eq_ofNat_iff (by omega), eq_ofNat_iff (by omega), eq_ofNat_iff (by omega)]
        omega
      · simp only [List.mem_cons, List.not_mem_nil, or_false]
        rw [eq_ofNat_iff (by omega), eq_ofNat_iff (by omega), eq_ofNat_iff (by omega),
          eq_ofNat_iff (by omega)]
        omega

/-- The byte of a line feed stands for a line feed. -/
theorem lineFeed_mem_utf8 {s : String} : lineFeed ∈ utf8 s ↔ '\n' ∈ s.toList := by
  have hchar (c : Char) : lineFeed ∈ String.utf8EncodeChar c ↔ c = '\n' := by
    rw [mem_utf8EncodeChar (by decide)]
    show c.toNat = '\n'.toNat ↔ c = '\n'
    exact Char.toNat_inj
  rw [utf8_eq, List.mem_flatMap]
  constructor
  · rintro ⟨c, hc, hmem⟩
    rwa [← (hchar c).mp hmem]
  · intro hmem
    exact ⟨'\n', hmem, (hchar '\n').mpr rfl⟩

@[simp] theorem utf8_lineFeed : utf8 "\n" = [lineFeed] := by
  rw [utf8_eq]
  rfl

@[simp] theorem utf8_return : utf8 "\r" = [carriageReturn] := by
  rw [utf8_eq]
  rfl

/-- Where the byte of a carriage return comes last, a carriage return does. -/
theorem exists_of_return {s : String} (h : (utf8 s).getLast? = some carriageReturn) :
    ∃ t, s = t ++ "\r" := by
  rw [utf8_eq] at h
  rcases s.toList.eq_nil_or_concat with hnil | ⟨cs, c, hcs⟩
  · rw [hnil] at h
    cases h
  · rw [hcs, List.concat_eq_append, List.flatMap_append, List.flatMap_singleton,
      List.getLast?_append, List.getLast?_eq_some_getLast String.utf8EncodeChar_ne_nil] at h
    have hmem : carriageReturn ∈ String.utf8EncodeChar c := by
      rw [Option.some_or] at h
      rw [← Option.some.inj h]
      exact List.getLast_mem _
    -- A byte this small stands for its own character only.
    have hc : c = '\r' := by
      rw [mem_utf8EncodeChar (by decide)] at hmem
      exact Char.toNat_inj.mp hmem
    refine ⟨String.ofList cs, ?_⟩
    rw [← String.toList_inj, hcs, String.toList_append, String.toList_ofList, hc,
      List.concat_eq_append]
    rfl

/-- A line without the carriage return at its end holds its text, or its text but for a carriage
    return. -/
theorem dropReturn_utf8 (s : String) :
    ∃ t, dropReturn (utf8 s) = utf8 t ∧ (s = t ∨ s = t ++ "\r") := by
  unfold dropReturn
  split
  · rename_i h
    obtain ⟨t, rfl⟩ := exists_of_return h
    refine ⟨t, ?_, .inr rfl⟩
    rw [utf8_append, utf8_return, List.dropLast_concat]
  · exact ⟨s, rfl, .inl rfl⟩

/-! ### Lines -/

/-- Lines of which each ends with a line feed are found again. -/
theorem splitOn_lines {lines : List (List UInt8)} (h : ∀ line ∈ lines, lineFeed ∉ line) :
    (lines.flatMap (· ++ [lineFeed])).splitOn lineFeed = lines ++ [[]] := by
  induction lines with
  | nil => rfl
  | cons line lines ih =>
    have hline := h line List.mem_cons_self
    have hlines := ih fun other hmem => h other (List.mem_cons_of_mem _ hmem)
    rw [List.flatMap_cons, List.append_assoc, List.singleton_append,
      List.splitOn_append_cons_self_of_not_mem hline, hlines]
    rfl

/-- Lines that hold no line feed are found as they were, but for a return at their end. -/
theorem linesOf_lines {lines : List (List UInt8)} (h : ∀ line ∈ lines, lineFeed ∉ line) :
    linesOf (lines.flatMap (· ++ [lineFeed])) = lines.map dropReturn := by
  simp only [linesOf, splitOn_lines h, List.getLast?_concat, List.dropLast_concat]

/-- Texts of which each is written with a line feed behind it are lines of bytes. -/
theorem utf8_join (texts : List String) :
    utf8 (String.join (texts.map (· ++ "\n"))) = (texts.map utf8).flatMap (· ++ [lineFeed]) := by
  induction texts with
  | nil =>
    rw [utf8_eq]
    rfl
  | cons s texts ih =>
    rw [List.map_cons, String.join_cons, utf8_append, ih, utf8_append, utf8_lineFeed, List.map_cons,
      List.flatMap_cons]

end Dashboard.Text
