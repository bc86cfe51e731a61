/-
Module: LiveRelay.Proofs.Net.Spelling
Purpose: The canonical text of a socket address is read as that address, for every address of both
  families; the flow information, which no text gives, is lost.
Main exports: readFourBytes_fourBytesText, readGroups_spelled, readEightGroups_eightGroupsText,
  SocketAddress.withoutFlow, SocketAddress.ofString?_toText
-/
import LiveRelay.Net.Address.Reader
import LiveRelay.Net.Address.Writer
import LiveRelay.Proofs.Text.Reading

namespace LiveRelay.Net

open Text Reader

variable {rest : List Char}

/-! ### Decimal parts -/

theorem readByte_decimal (byte : UInt8) (stops : Stops Char.isDigit rest) :
    readByte (decimal byte.toNat ++ rest) = some (byte, rest) := by
  have small : byte.toNat < 256 := byte.toNat_lt
  have short : (decimal byte.toNat).length ≤ 3 :=
    (Nat.length_toDigits_le_iff (by decide) (by decide)).2 (by omega)
  have canonical : (decimal byte.toNat).head? ≠ some '0' ∨ (decimal byte.toNat).length = 1 := by
    rcases Nat.eq_zero_or_pos byte.toNat with zero | positive
    · rw [zero]
      exact .inr rfl
    · exact .inl (head?_decimal byte.toNat positive)
  have value : Nat.ofDigitChars 10 (decimal byte.toNat) 0 = byte.toNat :=
    Nat.ofDigitChars_ten_toDigits
  refine (bind_of_some (takeSome_decimal byte.toNat stops)).trans ?_
  rw [value, if_pos ⟨short, canonical, by omega⟩, UInt8.ofNat_toNat]
  rfl

theorem readFourBytes_fourBytesText (a b c d : UInt8) (stops : Stops Char.isDigit rest) :
    readFourBytes (fourBytesText a b c d ++ rest) = some ((a, b, c, d), rest) := by
  have point (text : List Char) : Stops Char.isDigit ('.' :: text) := by
    rintro c ⟨⟩
    rfl
  simp only [fourBytesText, List.append_assoc, List.cons_append]
  refine (bind_of_some (readByte_decimal a (point _))).trans ?_
  refine (bind_of_some (char_self '.' _)).trans ?_
  refine (bind_of_some (readByte_decimal b (point _))).trans ?_
  refine (bind_of_some (char_self '.' _)).trans ?_
  refine (bind_of_some (readByte_decimal c (point _))).trans ?_
  refine (bind_of_some (char_self '.' _)).trans ?_
  exact bind_of_some (readByte_decimal d stops)

theorem readBounded_decimal {bound n : Nat} (below : n ≤ bound) (stops : Stops Char.isDigit rest) :
    readBounded bound (decimal n ++ rest) = some (n, rest) := by
  have value : Nat.ofDigitChars 10 (decimal n) 0 = n := Nat.ofDigitChars_ten_toDigits
  refine (bind_of_some (takeSome_decimal n stops)).trans ?_
  rw [value, if_pos below]
  rfl

theorem readPort_decimal (port : UInt16) :
    readPort (':' :: decimal port.toNat) = some (port, []) := by
  have below : port.toNat ≤ 65535 := Nat.le_of_lt_succ port.toNat_lt
  have taken : readBounded 65535 (decimal port.toNat ++ []) = some (port.toNat, []) :=
    readBounded_decimal below nofun
  rw [List.append_nil] at taken
  refine (bind_of_some (char_self ':' _)).trans ((bind_of_some taken).trans ?_)
  rw [UInt16.ofNat_toNat]
  rfl

/-! ### Groups -/

/-- What can stand behind a group: a colon, the closing bracket, or a scope. -/
def EndsGroup (text : List Char) : Prop := ∀ c ∈ text.head?, c = ':' ∨ c = ']' ∨ c = '%'

/-- What can stand behind all groups of a run: a double colon, the closing bracket, or a scope. -/
def EndsGroups (text : List Char) : Prop :=
  (∃ others, text = ':' :: ':' :: others) ∨ ∃ others, text = ']' :: others ∨ text = '%' :: others

theorem EndsGroups.endsGroup (ends : EndsGroups rest) : EndsGroup rest := by
  rcases ends with ⟨_, rfl⟩ | ⟨_, rfl | rfl⟩ <;> rintro c ⟨⟩ <;> simp

theorem EndsGroup.stops (ends : EndsGroup rest) :
    Stops (fun c => (hexDigit? c).isSome) rest := by
  intro c next
  rcases ends c next with rfl | rfl | rfl <;> decide

theorem EndsGroup.stops_digits (ends : EndsGroup rest) : Stops Char.isDigit rest := by
  intro c next
  rcases ends c next with rfl | rfl | rfl <;> decide

theorem readGroup_groupText (group : UInt16) (ends : EndsGroup rest) :
    readGroup (groupText group ++ rest) = some (group, rest) := by
  have short : (groupText group).length ≤ 4 :=
    (Nat.length_toDigits_le_iff (by decide) (by decide)).2 group.toNat_lt
  have value : ofDigitValues 16 ((groupText group).filterMap hexDigit?) = group.toNat :=
    ofDigitValues_toDigits group.toNat
  have taken : takeSome (fun c => (hexDigit? c).isSome) (groupText group ++ rest) =
      some (groupText group, rest) :=
    takeSome_append Nat.toDigits_ne_nil (isSome_hexDigit?_of_mem_toDigits group.toNat) ends.stops
  refine (bind_of_some taken).trans ?_
  rw [if_pos short, value, UInt16.ofNat_toNat]
  rfl

/-- No bytes are read where the digits that stand next are not followed by a point. -/
theorem readFourBytes_of_head? {text : List Char}
    (next : (text.dropWhile Char.isDigit).head? ≠ some '.') : readFourBytes text = none := by
  cases first : readByte text with
  | none => exact bind_of_none first
  | some taken =>
    obtain ⟨byte, left⟩ := taken
    have behind : left = text.dropWhile Char.isDigit := by
      obtain ⟨digits, behind, taken, kept⟩ := bind_eq_some_iff.1 first
      split at kept
      · cases kept
        exact left_of_takeSome taken
      · cases kept
    refine (bind_of_some first).trans (bind_of_none (char_of_head? ?_))
    rwa [behind]

/-- A group is not read as bytes. -/
theorem readFourBytes_groupText (group : UInt16) (ends : EndsGroup rest) :
    readFourBytes (groupText group ++ rest) = none := by
  refine readFourBytes_of_head? fun point => ?_
  rw [List.dropWhile_append] at point
  split at point
  · rw [dropWhile_of_stops ends.stops_digits] at point
    have found := ends '.' point
    simp at found
  · next some_letter =>
    obtain ⟨c, letters, behind⟩ := List.exists_cons_of_ne_nil (mt List.isEmpty_iff.2 some_letter)
    rw [behind] at point
    cases point
    have member : '.' ∈ groupText group :=
      (List.dropWhile_suffix Char.isDigit).subset (behind ▸ List.mem_cons_self)
    exact absurd (isSome_hexDigit?_of_mem_toDigits _ _ member) (by decide)

/-- What stands in front of a group: nothing in front of the first of a run, and else a colon. -/
def lead (isFirst : Bool) : List Char := if isFirst then [] else [':']

/-- Groups as they stand behind each other. -/
def spelled : (isFirst : Bool) → List UInt16 → List Char
  | _, [] => []
  | isFirst, group :: others => lead isFirst ++ groupText group ++ spelled false others

theorem groupsText_eq (groups : List UInt16) : groupsText groups = spelled true groups := by
  induction groups with
  | nil => rfl
  | cons group others ih =>
    cases others with
    | nil => simp [groupsText, spelled, lead]
    | cons next others => simp_all [groupsText, spelled, lead]

theorem endsGroup_spelled (groups : List UInt16) (ends : EndsGroups rest) :
    EndsGroup (spelled false groups ++ rest) := by
  cases groups with
  | nil => exact ends.endsGroup
  | cons group others =>
    rintro c ⟨⟩
    exact .inl rfl

/-- Take what stands in front of a group. -/
def separator (isFirst : Bool) : Reader Unit := if isFirst then pure () else char ':'

/-- Behind what stands in front of a group, a reader reads as it does alone. -/
theorem separator_bind {α : Type} (isFirst : Bool) (reader : Reader α) (text : List Char) :
    (separator isFirst >>= fun _ => reader) (lead isFirst ++ text) = reader text := by
  cases isFirst
  · exact bind_of_some (char_self ':' text)
  · rfl

section Steps

variable {isFirst : Bool} {room : Nat} {text left behind : List Char}

theorem readGroups_of_bytes {a b c d : UInt8}
    (bytes : (separator isFirst >>= fun _ => readFourBytes) text = some ((a, b, c, d), left)) :
    readGroups (room + 2) isFirst text =
      some (([groupOfBytes a b, groupOfBytes c d], true), left) :=
  bind_of_some (maybe_of_some bytes)

theorem refuses_bytes (bytes : (separator isFirst >>= fun _ => readFourBytes) text = none) :
    (do
      if room = 0 then failure
      separator isFirst
      readFourBytes) text = none := by
  by_cases full : room = 0
  · rw [if_pos full]
    exact bind_of_none rfl
  · rw [if_neg full]
    exact bytes

/-- A group is read first, and then the others. -/
theorem readGroups_lead {group : UInt16} {others : List UInt16} {decimalEnd : Bool}
    (ends : EndsGroup text)
    (more : readGroups room false text = some ((others, decimalEnd), behind)) :
    readGroups (room + 1) isFirst (lead isFirst ++ (groupText group ++ text)) =
      some ((group :: others, decimalEnd), behind) := by
  have bytes := (separator_bind isFirst readFourBytes _).trans (readFourBytes_groupText group ends)
  have first := (separator_bind isFirst readGroup _).trans (readGroup_groupText group ends)
  refine (bind_of_some (maybe_of_none (refuses_bytes bytes))).trans ?_
  exact (bind_of_some (maybe_of_some first)).trans (bind_of_some more)

theorem readGroups_of_nothing
    (bytes : (separator isFirst >>= fun _ => readFourBytes) text = none)
    (group : (separator isFirst >>= fun _ => readGroup) text = none) :
    readGroups (room + 1) isFirst text = some (([], false), text) := by
  refine (bind_of_some (maybe_of_none (refuses_bytes bytes))).trans ?_
  exact bind_of_some (maybe_of_none group)

end Steps

/-- What is refused at the end of a group is refused at the end of all groups, with a separator or
without. -/
theorem refuses_of_endsGroups {α : Type} {reader : Reader α}
    (refuses : ∀ text, EndsGroup text → reader text = none) (ends : EndsGroups rest)
    (isFirst : Bool) : (separator isFirst >>= fun _ => reader) rest = none := by
  cases isFirst with
  | true =>
    have passes : separator true rest = some ((), rest) := rfl
    exact (bind_of_some passes).trans (refuses rest ends.endsGroup)
  | false =>
    rcases ends with ⟨others, rfl⟩ | ⟨others, rfl | rfl⟩
    · have second : EndsGroup (':' :: others) := by
        rintro c ⟨⟩
        exact .inl rfl
      exact (bind_of_some (char_self ':' _)).trans (refuses _ second)
    · exact bind_of_none (char_of_head? (by simp))
    · exact bind_of_none (char_of_head? (by simp))

/-- No group is read where the groups have ended. -/
theorem readGroups_of_endsGroups (ends : EndsGroups rest) (room : Nat) (isFirst : Bool) :
    readGroups room isFirst rest = some (([], false), rest) := by
  cases room with
  | zero => rfl
  | succ room =>
    refine readGroups_of_nothing (refuses_of_endsGroups (fun text ends => ?bytes) ends isFirst)
      (refuses_of_endsGroups (fun text ends => ?group) ends isFirst)
    case bytes => exact bind_of_none (bind_of_none (takeSome_of_stops ends.stops_digits))
    case group => exact bind_of_none (takeSome_of_stops ends.stops)

/-- Groups are read as they were written, up to where they end. -/
theorem readGroups_spelled {groups : List UInt16} {room : Nat} (fits : groups.length ≤ room)
    (ends : EndsGroups rest) (isFirst : Bool) :
    readGroups room isFirst (spelled isFirst groups ++ rest) = some ((groups, false), rest) := by
  induction groups generalizing room isFirst with
  | nil => exact readGroups_of_endsGroups ends room isFirst
  | cons group others ih =>
    cases room with
    | zero => simp at fits
    | succ room =>
      rw [spelled, List.append_assoc, List.append_assoc]
      exact readGroups_lead (endsGroup_spelled others ends) (ih (Nat.le_of_succ_le_succ fits) false)

/-! ### Eight groups -/

theorem zeroRun_spec (groups : List UInt16) :
    groups = List.replicate (zeroRun groups) 0 ++ groups.drop (zeroRun groups) := by
  have zeros : groups.takeWhile (· == 0) = List.replicate (zeroRun groups) 0 := by
    refine List.eq_replicate_iff.2 ⟨rfl, fun group member => ?_⟩
    have zero := List.mem_takeWhile_imp member
    exact eq_of_beq zero
  have split : groups.takeWhile (· == 0) ++ groups.dropWhile (· == 0) = groups :=
    List.takeWhile_append_dropWhile
  have behind : groups.drop (zeroRun groups) = groups.dropWhile (· == 0) :=
    (congrArg (List.drop (zeroRun groups)) split).symm.trans List.drop_left
  rw [← zeros, behind, split]

/-- The longest of some runs is one of them, or the one to start with. -/
theorem foldl_longer_mem (runs : List (Nat × Nat)) (first : Nat × Nat) :
    runs.foldl (fun best run => if best.2 < run.2 then run else best) first ∈ first :: runs := by
  induction runs generalizing first with
  | nil => exact List.mem_singleton_self first
  | cons run runs ih =>
    rcases List.mem_cons.1 (ih (if first.2 < run.2 then run else first)) with same | later
    · rw [List.foldl_cons, same]
      split <;> simp
    · exact List.mem_cons_of_mem _ (List.mem_cons_of_mem _ later)

/-- The run that is left out of the text is one of zero groups, if it is left out. -/
theorem eq_of_longestZeroRun {groups : List UInt16} {start length : Nat}
    (longest : longestZeroRun groups = (start, length)) (long : 1 < length) :
    groups = groups.take start ++ List.replicate length 0 ++ groups.drop (start + length) := by
  have member := foldl_longer_mem
    ((List.range groups.length).map fun start => (start, zeroRun (groups.drop start))) (0, 0)
  rw [← longestZeroRun, longest] at member
  rcases List.mem_cons.1 member with none | member
  · cases none
    omega
  obtain ⟨_, _, found⟩ := List.mem_map.1 member
  cases found
  have run := zeroRun_spec (groups.drop start)
  rw [List.drop_drop] at run
  rw [List.append_assoc, ← run, List.take_append_drop]

/-- Filling the groups in front of a run and those behind it with zeros gives back what they were
taken from. -/
theorem fillGroups_eq {groups : Vector UInt16 8} {front back : List UInt16} {length : Nat}
    (whole : groups.toList = front ++ List.replicate length 0 ++ back) :
    fillGroups front back = groups := by
  have eight : (front ++ List.replicate length 0 ++ back).length = 8 := by
    rw [← whole, Vector.length_toList]
  simp only [List.length_append, List.length_replicate] at eight
  have start : 8 - back.length = front.length + length := by omega
  refine Vector.ext fun i bound => ?_
  have item : groups[i]? = (front ++ List.replicate length 0 ++ back)[i]? := by simp [← whole]
  rw [Vector.getElem?_eq_getElem bound, List.getElem?_append, List.getElem?_append,
    List.length_append, List.length_replicate, List.getElem?_replicate] at item
  refine Option.some.inj (Eq.trans ?_ item.symm)
  rw [fillGroups, Vector.getElem_ofFn]
  simp only [start, List.getD_eq_getElem?_getD]
  split
  · next inFront =>
    rw [if_pos (by omega), List.getElem?_eq_getElem inFront, Option.getD_some]
  split
  · next inBack =>
    have inside : i - (front.length + length) < back.length := by omega
    rw [if_neg (by omega), List.getElem?_eq_getElem inside, Option.getD_some]
  · rw [if_pos (by omega), if_pos (by omega)]

/-- Groups around a double colon are read from both of its sides. -/
theorem readEightGroups_of_sides {text behind : List Char} {front back : List UInt16}
    {decimalEnd : Bool} (room : front.length < 8)
    (first : readGroups 8 true text = some ((front, false), ':' :: ':' :: behind))
    (second : readGroups (7 - front.length) true behind = some ((back, decimalEnd), rest)) :
    readEightGroups text = some (fillGroups front back, rest) := by
  have colons : chars [':', ':'] (':' :: ':' :: behind) = some ((), behind) := by
    simp only [chars]
    refine (bind_of_some (char_self ':' _)).trans ?_
    exact bind_of_some (char_self ':' _)
  refine (bind_of_some first).trans ?_
  simp only [room.ne, if_false, Bool.false_eq_true]
  refine (bind_of_some colons).trans ?_
  exact (bind_of_some second).trans rfl

/-- A group is put together from its two bytes. -/
theorem groupOfBytes_bytes (group : UInt16) :
    groupOfBytes (group / 256).toUInt8 group.toUInt8 = group := by
  refine UInt16.toNat.inj ?_
  have below := group.toNat_lt
  simp [groupOfBytes]
  omega

/-- The bytes at the end of a mapped address are read as its last two groups. -/
theorem readGroups_mapped (high low : UInt16) (ends : EndsGroup rest) :
    readGroups 7 true ("ffff:".toList ++ fourBytesText (high / 256).toUInt8 high.toUInt8
      (low / 256).toUInt8 low.toUInt8 ++ rest) = some (([0xffff, high, low], true), rest) := by
  have text : "ffff:".toList = lead true ++ (groupText 0xffff ++ [':']) := by decide
  have bytes := readFourBytes_fourBytesText (high / 256).toUInt8 high.toUInt8 (low / 256).toUInt8
    low.toUInt8 ends.stops_digits
  have behind : readGroups 6 false _ = _ :=
    readGroups_of_bytes ((separator_bind false readFourBytes _).trans bytes)
  rw [groupOfBytes_bytes, groupOfBytes_bytes] at behind
  rw [text, List.append_assoc, List.append_assoc, List.append_assoc]
  refine readGroups_lead ?_ behind
  rintro c ⟨⟩
  exact .inl rfl

/-- Eight groups without a double colon are read one after another. -/
theorem readEightGroups_groupsText (groups : Vector UInt16 8) (ends : EndsGroups rest) :
    readEightGroups (groupsText groups.toList ++ rest) = some (groups, rest) := by
  have eight : groups.toList.length = 8 := groups.length_toList
  have taken := readGroups_spelled eight.le ends true
  have whole : groups.toList = groups.toList ++ List.replicate 0 0 ++ [] := by simp
  rw [groupsText_eq]
  refine (bind_of_some taken).trans ?_
  simp only [eight, if_true]
  rw [fillGroups_eq whole]
  rfl

/-- The canonical text of eight groups is read as those groups. -/
theorem readEightGroups_eightGroupsText (groups : Vector UInt16 8)
    (ends : ∃ others, rest = ']' :: others ∨ rest = '%' :: others) :
    readEightGroups (eightGroupsText groups ++ rest) = some (groups, rest) := by
  have endsGroups : EndsGroups rest := .inr ends
  have colons (text : List Char) : EndsGroups (':' :: ':' :: text) := .inl ⟨text, rfl⟩
  unfold eightGroupsText
  split
  · next high low mapped =>
    have whole : groups.toList = [] ++ List.replicate 5 0 ++ [0xffff, high, low] := mapped
    refine (readEightGroups_of_sides (by decide) (readGroups_of_endsGroups (colons _) 8 true)
      (readGroups_mapped high low endsGroups.endsGroup)).trans ?_
    rw [fillGroups_eq whole]
  · cases longest : longestZeroRun groups.toList with
    | mk start length =>
      dsimp only
      split
      · next long =>
        have whole := eq_of_longestZeroRun longest long
        have eight := congrArg List.length whole
        simp only [List.length_append, List.length_replicate, Vector.length_toList] at eight
        rw [groupsText_eq, groupsText_eq, List.append_assoc]
        refine (readEightGroups_of_sides (by omega)
          (readGroups_spelled (by omega) (colons _) true)
          (readGroups_spelled (by omega) endsGroups true)).trans ?_
        rw [fillGroups_eq whole]
      · exact readEightGroups_groupsText groups endsGroups

/-! ### Socket addresses -/

/-- What is written of a scope: nothing of zero. -/
def scopeText (scope : UInt32) : List Char :=
  if scope = 0 then [] else '%' :: decimal scope.toNat

/-- Behind the groups of a socket address stands its scope or the closing bracket. -/
theorem scopeText_append (scope : UInt32) (text : List Char) :
    ∃ others, scopeText scope ++ ']' :: text = ']' :: others ∨
      scopeText scope ++ ']' :: text = '%' :: others := by
  unfold scopeText
  split
  · exact ⟨_, .inl rfl⟩
  · exact ⟨_, .inr rfl⟩

/-- A scope is read where one is written, and none stands for zero. -/
theorem exists_scope (scope : UInt32) (text : List Char) :
    ∃ found : Option Nat,
      maybe (char '%' >>= fun _ => readBounded 4294967295) (scopeText scope ++ ']' :: text) =
          some (found, ']' :: text) ∧
        UInt32.ofNat (found.getD 0) = scope := by
  unfold scopeText
  by_cases zero : scope = 0
  · refine ⟨none, ?_, zero.symm⟩
    rw [if_pos zero]
    exact maybe_of_none (bind_of_none (char_of_head? (by simp)))
  · refine ⟨some scope.toNat, ?_, UInt32.ofNat_toNat⟩
    have below : scope.toNat ≤ 4294967295 := Nat.le_of_lt_succ scope.toNat_lt
    have stops : Stops Char.isDigit (']' :: text) := by
      rintro c ⟨⟩
      rfl
    rw [if_neg zero]
    exact maybe_of_some ((bind_of_some (char_self '%' _)).trans (readBounded_decimal below stops))

/-- The address without its flow information. -/
def SocketAddress.withoutFlow : SocketAddress → SocketAddress
  | .v4 a b c d port => .v4 a b c d port
  | .v6 groups _ scope port => .v6 groups 0 scope port

theorem readSocketAddress_toText (address : SocketAddress) :
    readSocketAddress address.toText.toList = some (address.withoutFlow, []) := by
  cases address with
  | v4 a b c d port =>
    have colon : Stops Char.isDigit (':' :: decimal port.toNat) := by
      rintro c ⟨⟩
      rfl
    rw [SocketAddress.toText, String.toList_ofList]
    refine orElse_of_some ((bind_of_some (readFourBytes_fourBytesText a b c d colon)).trans ?_)
    exact (bind_of_some (readPort_decimal port)).trans rfl
  | v6 groups flow scope port =>
    obtain ⟨found, taken, same⟩ := exists_scope scope (':' :: decimal port.toNat)
    have groupsRead := readEightGroups_eightGroupsText groups
      (scopeText_append scope (':' :: decimal port.toNat))
    have bracket (text : List Char) : readFourBytes ('[' :: text) = none :=
      readFourBytes_of_head? (by simp)
    rw [SocketAddress.toText, String.toList_ofList, List.append_assoc, List.cons_append]
    refine (orElse_of_none (bind_of_none (bracket _))).trans ?_
    refine (bind_of_some (char_self '[' _)).trans ?_
    refine (bind_of_some groupsRead).trans ?_
    refine (bind_of_some taken).trans ?_
    refine (bind_of_some (char_self ']' _)).trans ?_
    refine (bind_of_some (readPort_decimal port)).trans ?_
    rw [same]
    rfl

namespace SocketAddress

/-- The text of a socket address is read as that address, but for its flow information. -/
theorem ofString?_toText (address : SocketAddress) :
    ofString? address.toText = some address.withoutFlow := by
  rw [ofString?, readAll?, readSocketAddress_toText]

theorem withoutFlow_eq_iff {address : SocketAddress} :
    address.withoutFlow = address ↔ address.flow = 0 := by
  cases address <;> simp [withoutFlow, flow, eq_comm]

theorem withoutFlow_withoutFlow (address : SocketAddress) :
    address.withoutFlow.withoutFlow = address.withoutFlow := by
  cases address <;> rfl

/-- A socket address is read back from its text as it is exactly if it has no flow information. -/
theorem ofString?_toText_eq_iff {address : SocketAddress} :
    ofString? address.toText = some address ↔ address.flow = 0 := by
  rw [ofString?_toText, Option.some.injEq, withoutFlow_eq_iff]

end SocketAddress

end LiveRelay.Net
