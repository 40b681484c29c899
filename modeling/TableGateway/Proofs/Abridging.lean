/-
Abridging: how much of a text is kept when it has to fit some bytes.

The boundaries of a text are where a beginning of whole characters ends
(`Text.boundary_iff`).  Stepping back from the last byte that fits passes over no boundary,
so what is before the one it ends at is the longest beginning that fits
(`Text.longestCut_stepBack`).  No character has more than four bytes: the next one did not
fit, so three bytes at most stay free (`Text.LongestCut.lt_add_four`), and there were three
steps at most.

Summaries of responses cut their errors so, and log lines their payloads (`longest_cut`).
-/
import TableGateway.Observe.LogLine
import TableGateway.Proofs.Printed

namespace TableGateway

namespace Text

/-! ## Beginnings -/

theorem prefix_iff_exists_append (p s : String) :
    p.toList <+: s.toList ↔ ∃ rest, s = p ++ rest := by
  constructor
  · rintro ⟨rest, hrest⟩
    refine ⟨String.ofList rest, String.toList_inj.mp ?_⟩
    rw [String.toList_append, String.toList_ofList, hrest]
  · rintro ⟨rest, rfl⟩
    rw [String.toList_append]
    exact List.prefix_append _ _

/-- A beginning that has all the bytes is the whole text. -/
theorem eq_of_beginning {p s : String} (h : p.toList <+: s.toList)
    (hsize : s.utf8ByteSize ≤ p.utf8ByteSize) : p = s := by
  obtain ⟨rest, rfl⟩ := (prefix_iff_exists_append p s).mp h
  have hrest : rest.utf8ByteSize = 0 := by
    rw [String.utf8ByteSize_append] at hsize
    omega
  rw [String.utf8ByteSize_eq_zero_iff.mp hrest, String.append_empty]

/-- Two beginnings of one text are told apart by their bytes. -/
theorem eq_of_beginnings {p q s : String} (hp : p.toList <+: s.toList)
    (hq : q.toList <+: s.toList) (hsize : p.utf8ByteSize = q.utf8ByteSize) : p = q := by
  rcases List.prefix_or_prefix_of_prefix hp hq with h | h
  · exact eq_of_beginning h (Nat.le_of_eq hsize.symm)
  · exact (eq_of_beginning h (Nat.le_of_eq hsize)).symm

/-- A beginning that is not the whole text can take in one more character. -/
theorem exists_longer_beginning {p s : String} (h : p.toList <+: s.toList) (hne : p ≠ s) :
    ∃ c : Char, (p.push c).toList <+: s.toList := by
  obtain ⟨rest, hrest⟩ := h
  cases rest with
  | nil => exact absurd (String.toList_inj.mp ((List.append_nil _).symm.trans hrest)) hne
  | cons c rest =>
      refine ⟨c, rest, ?_⟩
      rw [String.toList_push, List.append_assoc, List.singleton_append, hrest]

/-! ## Boundaries -/

theorem boundary_iff {s : String} {i : Nat} :
    Boundary s i ↔ ∃ p : String, p.toList <+: s.toList ∧ p.utf8ByteSize = i := by
  simp only [Boundary, String.Pos.Raw.isValid_iff_exists_append, prefix_iff_exists_append]
  constructor
  · rintro ⟨p, rest, hs, hi⟩
    exact ⟨p, ⟨rest, hs⟩, (congrArg String.Pos.Raw.byteIdx hi).symm⟩
  · rintro ⟨p, ⟨rest, hs⟩, rfl⟩
    exact ⟨p, rest, hs, rfl⟩

theorem exists_before? {s : String} {i : Nat} (h : Boundary s i) :
    ∃ p, before? s i = some p ∧ p.toList <+: s.toList ∧ p.utf8ByteSize = i := by
  have hsplits := (s.pos ⟨i⟩ h).splits
  refine ⟨_, before?_of_boundary h, ?_, ?_⟩
  · exact (prefix_iff_exists_append _ s).mpr ⟨_, hsplits.eq_append⟩
  · exact (congrArg String.Pos.Raw.byteIdx hsplits.offset_eq_rawEndPos).symm

/-- The text before an offset is the beginning with so many bytes. -/
theorem before?_eq_some_iff {s r : String} {i : Nat} :
    before? s i = some r ↔ r.toList <+: s.toList ∧ r.utf8ByteSize = i := by
  constructor
  · intro h
    by_cases hb : Boundary s i
    case pos =>
      obtain ⟨p, hp, hbegins⟩ := exists_before? hb
      cases hp.symm.trans h
      exact hbegins
    case neg =>
      rw [before?, dif_neg hb] at h
      cases h
  · rintro ⟨hr, hrsize⟩
    obtain ⟨p, hbefore, hp, hpsize⟩ := exists_before? (boundary_iff.mpr ⟨r, hr, hrsize⟩)
    rw [hbefore, eq_of_beginnings hp hr (hpsize.trans hrsize.symm)]

/-! ## Stepping back -/

/-- `Backs s i k j`: stepping back from offset `i` takes `k` steps and ends at `j`, the first
boundary it comes to. -/
inductive Backs (s : String) : Nat → Nat → Nat → Prop
  | here {i : Nat} : Boundary s i → Backs s i 0 i
  | step {i k j : Nat} : ¬Boundary s (i + 1) → Backs s i k j → Backs s (i + 1) (k + 1) j

theorem Backs.add_eq {s : String} {i k j : Nat} (h : Backs s i k j) : j + k = i := by
  induction h with
  | here => rfl
  | step _ _ ih => rw [← ih, Nat.add_assoc]

/-- No boundary is passed over. -/
theorem Backs.le {s : String} {i k j : Nat} (h : Backs s i k j) {b : Nat} (hb : Boundary s b)
    (hle : b ≤ i) : b ≤ j := by
  induction h with
  | here => exact hle
  | step hstep _ ih =>
      refine ih (Nat.le_of_lt_succ (Nat.lt_of_le_of_ne hle ?_))
      rintro rfl
      exact hstep hb

theorem exists_backs (s : String) (n : Nat) : ∃ k, Backs s n k (stepBack s n) := by
  induction n with
  | zero => exact ⟨0, .here (boundary_stepBack s 0)⟩
  | succ i ih =>
      simp only [stepBack]
      split
      case isTrue h => exact ⟨0, .here h⟩
      case isFalse h =>
        obtain ⟨k, hk⟩ := ih
        exact ⟨k + 1, .step h hk⟩

/-! ## The longest beginning that fits -/

/-- The longest beginning of a text, in whole characters, that takes at most `n` bytes. -/
structure LongestCut (n : Nat) (s r : String) : Prop where
  whole : r.toList <+: s.toList
  fits : r.utf8ByteSize ≤ n
  longest : ∀ p : String, p.toList <+: s.toList → p.utf8ByteSize ≤ n →
    p.utf8ByteSize ≤ r.utf8ByteSize

namespace LongestCut

variable {n : Nat} {s r r' : String}

theorem unique (h : LongestCut n s r) (h' : LongestCut n s r') : r = r' :=
  eq_of_beginnings h.whole h'.whole
    (Nat.le_antisymm (h'.longest r h.whole h.fits) (h.longest r' h'.whole h'.fits))

theorem eq_self_iff (h : LongestCut n s r) : r = s ↔ s.utf8ByteSize ≤ n := by
  constructor
  · rintro rfl
    exact h.fits
  · intro hfits
    exact eq_of_beginning h.whole (h.longest s List.prefix_rfl hfits)

/-- The next character would not fit, and has four bytes at most. -/
theorem lt_add_four (h : LongestCut n s r) (hn : n < s.utf8ByteSize) : n < r.utf8ByteSize + 4 := by
  have hne : r ≠ s := fun heq => Nat.not_le_of_lt hn (h.eq_self_iff.mp heq)
  obtain ⟨c, hc⟩ := exists_longer_beginning h.whole hne
  have hsize : (r.push c).utf8ByteSize = r.utf8ByteSize + c.utf8Size := String.utf8ByteSize_push
  have hpos : 0 < c.utf8Size := c.utf8Size_pos
  have hfour : c.utf8Size ≤ 4 := c.utf8Size_le_four
  refine Nat.lt_of_not_le fun hfits => ?_
  have hlonger := h.longest (r.push c) hc (by omega)
  omega

end LongestCut

theorem longestCut_stepBack {n : Nat} {s r : String} (h : before? s (stepBack s n) = some r) :
    LongestCut n s r := by
  obtain ⟨hbegins, hsize⟩ := before?_eq_some_iff.mp h
  obtain ⟨k, hk⟩ := exists_backs s n
  refine ⟨hbegins, ?_, ?_⟩
  · rw [hsize]
    exact Nat.le.intro hk.add_eq
  · intro p hp hfits
    rw [hsize]
    exact hk.le (boundary_iff.mpr ⟨p, hp, rfl⟩) hfits

theorem cut?_eq (n : Nat) (s : String) : cut? n s = some (cut n s) :=
  (Option.some_get _).symm

theorem longestCut_cut (n : Nat) (s : String) : LongestCut n s (cut n s) := by
  have hcut := cut?_eq n s
  unfold cut? at hcut
  split at hcut
  case isTrue hfits =>
    rw [← Option.some.inj hcut]
    exact ⟨List.prefix_rfl, hfits, fun p hp _ => (boundary_iff.mpr ⟨p, hp, rfl⟩).le_rawEndPos⟩
  case isFalse => exact longestCut_stepBack hcut

theorem before?_stepBack {n : Nat} {s : String} (hn : n < s.utf8ByteSize) :
    before? s (stepBack s n) = some (cut n s) := by
  rw [← cut?_eq, cut?, if_neg (Nat.not_le_of_lt hn)]

/-- Each step back frees a byte, and no more than three stay free. -/
theorem exists_backs_le_three {n : Nat} {s : String} (hn : n < s.utf8ByteSize) :
    ∃ k ≤ 3, Backs s n k (stepBack s n) := by
  obtain ⟨k, hk⟩ := exists_backs s n
  have hlost := (longestCut_cut n s).lt_add_four hn
  rw [(before?_eq_some_iff.mp (before?_stepBack hn)).2] at hlost
  have hsteps := hk.add_eq
  exact ⟨k, by omega, hk⟩

/-! ## Texts that are cut short -/

/-- How a text is shown where it should not take more than `n` bytes: as it is if it does not,
and otherwise its longest beginning that does not, with three dots. -/
structure Abridged (n : Nat) (s shown : String) : Prop where
  kept : s.utf8ByteSize ≤ n → shown = s
  cut : n < s.utf8ByteSize → ∃ r, LongestCut n s r ∧ shown = r ++ "..."
  bounded : shown.utf8ByteSize ≤ n + 3

theorem abridged_abridge (n : Nat) (s : String) : Abridged n s (abridge n s) := by
  have hlongest := longestCut_cut n s
  unfold abridge
  split
  case isTrue hfits =>
    refine ⟨fun _ => rfl, fun hn => absurd hfits (Nat.not_le_of_lt hn), ?_⟩
    exact Nat.le_add_right_of_le hfits
  case isFalse hn =>
    refine ⟨fun hfits => absurd hfits hn, fun _ => ⟨_, hlongest, rfl⟩, ?_⟩
    rw [String.utf8ByteSize_append]
    exact Nat.add_le_add_right hlongest.fits 3

/-- Of a letter of two bytes the first is not shown alone. -/
example : abridge 2 "héllo" = "h..." := by decide

/-- Of a text that is not empty no bytes are shown but the dots. -/
theorem Abridged.eq_dots {s shown : String} (h : Abridged 0 s shown) (hs : s ≠ "") :
    shown = "..." := by
  have hpos : 0 < s.utf8ByteSize :=
    Nat.pos_of_ne_zero fun hzero => hs (String.utf8ByteSize_eq_zero_iff.mp hzero)
  obtain ⟨r, hr, rfl⟩ := h.cut hpos
  rw [String.utf8ByteSize_eq_zero_iff.mp (Nat.le_zero.mp hr.fits), String.empty_append]

end Text

/-- Any text can be cut to any number of bytes, and what is kept is the longest beginning
that fits.  It is the text itself just when that fits.  Otherwise three bytes at most stay
free: stepping back ends after three steps at most, at a boundary where the text is cut.  The
error of a summary is so abridged to 512 bytes, and the payload of a log line to the limit of
the log; nothing but the dots is left of it if the limit is zero. -/
theorem longest_cut :
    (∀ (n : Nat) (s : String), ∃ r, Text.cut? n s = some r ∧ Text.LongestCut n s r ∧
      (r = s ↔ s.utf8ByteSize ≤ n) ∧
      (n < s.utf8ByteSize → n < r.utf8ByteSize + 4 ∧
        (∃ k ≤ 3, Text.Backs s n k (Text.stepBack s n)) ∧
        Text.before? s (Text.stepBack s n) = some r)) ∧
    (∀ (response : Response) (elapsed : Duration) (message : String),
      response.error = some message →
        ∃ shown, (ResponseLog.make response elapsed).error = some shown ∧
          Text.Abridged 512 message shown) ∧
    ∀ (l : LogLine) (c : CallLog) (limit : Nat), l.maxPayload = some limit →
      Text.Abridged limit c.payload.text (l.payloadText c) ∧
        (limit = 0 → l.payloadText c = "...") := by
  refine ⟨?cuts, ?errors, ?payloads⟩
  case cuts =>
    intro n s
    have hlongest := Text.longestCut_cut n s
    refine ⟨Text.cut n s, Text.cut?_eq n s, hlongest, hlongest.eq_self_iff, ?_⟩
    intro hn
    exact ⟨hlongest.lt_add_four hn, Text.exists_backs_le_three hn, Text.before?_stepBack hn⟩
  case errors =>
    intro response elapsed message hmessage
    refine ⟨Text.abridge ResponseLog.maxErrorBytes message, ?_, Text.abridged_abridge _ _⟩
    simp only [ResponseLog.make, hmessage, Option.map_some]
  case payloads =>
    intro l c limit hlimit
    have habridged : Text.Abridged limit c.payload.text (l.payloadText c) := by
      simp only [LogLine.payloadText, hlimit]
      exact Text.abridged_abridge _ _
    refine ⟨habridged, ?_⟩
    rintro rfl
    exact habridged.eq_dots c.payload.text_ne_empty

/-- A letter of one byte, and then letters of two. -/
def accented (n : Nat) : String :=
  String.ofList ('x' :: List.replicate n 'é')

/-- The last byte that would fit begins a letter that does not, and stays free. -/
theorem longest_cut_accented :
    512 < (accented 300).utf8ByteSize ∧ (accented 255).utf8ByteSize = 511 ∧
    Text.LongestCut 512 (accented 300) (accented 255) ∧
    (ResponseLog.make (.networkFailure (accented 300)) .zero).error = some (accented 255 ++ "...") ∧
    LogLine.payloadText { maxPayload := some 0 } (.make .fetch .null (.ofOptions {})) = "..." := by
  obtain ⟨hcuts, herrors, hpayloads⟩ := longest_cut
  have hlong : 512 < (accented 300).utf8ByteSize := by decide +kernel
  have hback : Text.stepBack (accented 300) 512 = 511 := by decide +kernel
  have hkept : (accented 255).utf8ByteSize = 511 := by decide +kernel
  have hbegins : (accented 255).toList <+: (accented 300).toList := by
    rw [accented, accented, String.toList_ofList, String.toList_ofList]
    exact ⟨List.replicate 45 'é', by rw [List.cons_append, List.replicate_append_replicate]⟩
  obtain ⟨r, -, hlongest, -, hcut⟩ := hcuts 512 (accented 300)
  obtain ⟨-, -, hbefore⟩ := hcut hlong
  obtain ⟨hr, hsize⟩ := Text.before?_eq_some_iff.mp hbefore
  have heq : r = accented 255 :=
    Text.eq_of_beginnings hr hbegins (hsize.trans (hback.trans hkept.symm))
  rw [heq] at hlongest
  obtain ⟨shown, hshown, habridged⟩ := herrors (.networkFailure (accented 300)) .zero _ rfl
  obtain ⟨p, hp, hdots⟩ := habridged.cut hlong
  rw [hdots, hp.unique hlongest] at hshown
  exact ⟨hlong, hkept, hlongest, hshown, (hpayloads _ _ 0 rfl).2 rfl⟩

end TableGateway
