import Mathlib.Tactic.Common
import OverlayStack.Topology.File

/-!
# Stars in topology files

A text that links one host to some others, with a line for each of them, describes a topology.  The
hosts are given by dotted addresses that differ in the last number, so that there can be 256 of
them.

## Main definitions

* `Topology.starText` — the text with a given number of hosts around one.
* `Topology.IsStar` — topologies whose addresses differ in the last number only.

## Main results

* `Text.lines_flatMap`, `Text.words_append`, `Text.fields_append` — texts are cut where they were
  joined.
* `Topology.parse_starText` — the text of a star is accepted.
-/

namespace OverlayStack

/-! ### Cutting what was joined -/

namespace Text

theorem endedLine_of_not_mem {cs : List Char} (h : '\r' ∉ cs) : endedLine cs = cs.reverse := by
  unfold endedLine
  split
  · exact absurd List.mem_cons_self h
  · rfl

theorem linesFrom_append {line : List Char} (h : '\n' ∉ line) (rest : List Char) :
    ∀ current, linesFrom current (line ++ rest) = linesFrom (line.reverse ++ current) rest := by
  induction line with
  | nil => exact fun _ => rfl
  | cons c line ih =>
    intro current
    rw [List.mem_cons, not_or] at h
    rw [List.cons_append, linesFrom, if_neg (Ne.symm h.1), ih h.2, List.reverse_cons,
      List.append_assoc]
    rfl

/-- The lines of a text are those that it was made of. -/
theorem lines_flatMap {ls : List (List Char)} (h : ∀ l ∈ ls, '\n' ∉ l ∧ '\r' ∉ l) :
    lines (ls.flatMap fun l => l ++ ['\n']) = ls := by
  induction ls with
  | nil => rfl
  | cons l ls ih =>
    obtain ⟨hfeed, hreturn⟩ := h l List.mem_cons_self
    have hended : endedLine (l.reverse ++ []) = l := by
      rw [List.append_nil, endedLine_of_not_mem (by rwa [List.mem_reverse]), List.reverse_reverse]
    rw [List.flatMap_cons, List.append_assoc, List.singleton_append, lines,
      linesFrom_append hfeed, linesFrom, if_pos rfl, hended]
    exact congrArg (l :: ·) (ih fun l hl => h l (List.mem_cons_of_mem _ hl))

theorem wordsFrom_append {w : List Char} (h : ∀ c ∈ w, isBlank c = false) (rest : List Char) :
    ∀ current, wordsFrom current (w ++ rest) = wordsFrom (w.reverse ++ current) rest := by
  induction w with
  | nil => exact fun _ => rfl
  | cons c w ih =>
    intro current
    have hc : isBlank c = false := h c List.mem_cons_self
    rw [List.cons_append, wordsFrom, if_neg (by rw [hc]; exact Bool.false_ne_true),
      ih fun c hc => h c (List.mem_cons_of_mem _ hc), List.reverse_cons, List.append_assoc]
    rfl

theorem collected_reverse {w : List Char} (h : w ≠ []) : collected (w.reverse ++ []) = [w] := by
  unfold collected
  split
  · next hnil =>
    rw [List.append_nil, List.reverse_eq_nil_iff] at hnil
    exact absurd hnil h
  · rw [List.append_nil, List.reverse_reverse]

/-- A word that a blank follows is the first one. -/
theorem words_append {w : List Char} (h : ∀ c ∈ w, isBlank c = false) (hne : w ≠ [])
    (rest : List Char) : words (w ++ ' ' :: rest) = w :: words rest := by
  rw [words, wordsFrom_append h, wordsFrom, if_pos (by decide), collected_reverse hne]
  rfl

/-- A text without blanks is one word. -/
theorem words_of_not_blank {w : List Char} (h : ∀ c ∈ w, isBlank c = false) (hne : w ≠ []) :
    words w = [w] := by
  have hall := wordsFrom_append h [] []
  rw [List.append_nil] at hall
  rw [words, hall, wordsFrom, collected_reverse hne]

theorem fields_ne_nil (separator : Char) (cs : List Char) : fields separator cs ≠ [] := by
  cases cs with
  | nil => exact List.cons_ne_nil _ _
  | cons c cs =>
    rw [fields]
    split
    · exact List.cons_ne_nil _ _
    · split <;> exact List.cons_ne_nil _ _

theorem fields_cons_of_ne {separator c : Char} {cs part : List Char} {parts : List (List Char)}
    (h : c ≠ separator) (hcs : fields separator cs = part :: parts) :
    fields separator (c :: cs) = (c :: part) :: parts := by
  rw [fields, hcs]
  exact if_neg h

/-- A part that a separator follows is the first one. -/
theorem fields_append {separator : Char} {part : List Char} (h : separator ∉ part)
    (rest : List Char) :
    fields separator (part ++ separator :: rest) = part :: fields separator rest := by
  induction part with
  | nil =>
    obtain ⟨first, parts, hrest⟩ := List.exists_cons_of_ne_nil (fields_ne_nil separator rest)
    rw [List.nil_append, fields, hrest]
    exact if_pos rfl
  | cons c part ih =>
    rw [List.mem_cons, not_or] at h
    exact fields_cons_of_ne (Ne.symm h.1) (ih h.2)

theorem fields_of_not_mem {separator : Char} {part : List Char} (h : separator ∉ part) :
    fields separator part = [part] := by
  induction part with
  | nil => rfl
  | cons c part ih =>
    rw [List.mem_cons, not_or] at h
    exact fields_cons_of_ne (Ne.symm h.1) (ih h.2)

/-- The digits of a number below 256 are read as this number. -/
theorem octet?_toDigits : ∀ n : Fin 256, octet? (Nat.toDigits 10 n) = some (UInt8.ofNat n) := by
  decide +kernel

end Text

/-! ### Stars -/

namespace Topology

/-- The text of an address, which ends with the number. -/
def spokeName (k : Nat) : List Char :=
  ['1', '0'] ++ '.' :: (['0'] ++ '.' :: (['0'] ++ '.' :: Nat.toDigits 10 k))

/-- A line that links the host with the number zero to another one. -/
def spokeLine (k : Nat) : List Char :=
  spokeName 0 ++ ' ' :: (spokeName k ++ ' ' :: ['1'])

/-- The text of a topology in which the host with the number zero is linked to all others. -/
def starText (n : Nat) : String :=
  String.ofList (((List.range' 1 n).map spokeLine).flatMap fun l => l ++ ['\n'])

theorem isDigit_or_of_mem_spokeName {k : Nat} {c : Char} (h : c ∈ spokeName k) :
    c.isDigit = true ∨ c = '.' := by
  simp only [spokeName, List.mem_append, List.mem_cons, List.not_mem_nil, or_false] at h
  rcases h with (rfl | rfl) | rfl | rfl | rfl | rfl | rfl | hdigits
  · exact .inl rfl
  · exact .inl rfl
  · exact .inr rfl
  · exact .inl rfl
  · exact .inr rfl
  · exact .inl rfl
  · exact .inr rfl
  · exact .inl (Nat.isDigit_of_mem_toDigits (by decide) (by decide) hdigits)

theorem isBlank_of_mem_spokeName {k : Nat} {c : Char} (h : c ∈ spokeName k) :
    Text.isBlank c = false := by
  rcases isDigit_or_of_mem_spokeName h with hdigit | rfl
  · rw [Char.isDigit, Bool.and_eq_true, decide_eq_true_eq, decide_eq_true_eq] at hdigit
    obtain ⟨hlow, hhigh⟩ : 48 ≤ c.toNat ∧ c.toNat ≤ 57 := hdigit
    simp only [Text.isBlank, Bool.or_eq_false_iff, Bool.and_eq_false_iff, decide_eq_false_iff_not,
      beq_eq_false_iff_ne]
    omega
  · decide

theorem spokeName_ne_nil (k : Nat) : spokeName k ≠ [] :=
  List.cons_ne_nil _ _

theorem words_spokeLine (k : Nat) :
    Text.words (spokeLine k) = [spokeName 0, spokeName k, ['1']] := by
  rw [spokeLine, Text.words_append (fun _ => isBlank_of_mem_spokeName) (spokeName_ne_nil 0),
    Text.words_append (fun _ => isBlank_of_mem_spokeName) (spokeName_ne_nil k),
    Text.words_of_not_blank (List.forall_mem_singleton.2 (by decide)) (List.cons_ne_nil _ _)]

/-- The lines of a star have no line ends in them. -/
theorem not_mem_spokeLine {c : Char} (h : Text.isBlank c = true) (hc : c ≠ ' ') (k : Nat) :
    c ∉ spokeLine k := by
  have hname : ∀ j, c ∉ spokeName j := by
    intro j hj
    rw [isBlank_of_mem_spokeName hj] at h
    cases h
  have hone : c ≠ '1' := by
    rintro rfl
    exact absurd h (by decide)
  simp [spokeLine, hname, hc, hone]

theorem fields_spokeName (k : Nat) :
    Text.fields '.' (spokeName k) = [['1', '0'], ['0'], ['0'], Nat.toDigits 10 k] := by
  have hdigits : '.' ∉ Nat.toDigits 10 k := by
    intro hmem
    exact absurd (Nat.isDigit_of_mem_toDigits (by decide) (by decide) hmem) (by decide)
  rw [spokeName, Text.fields_append (by decide), Text.fields_append (by decide),
    Text.fields_append (by decide), Text.fields_of_not_mem hdigits]

theorem literal_spokeName {k : Nat} (hk : k < 256) :
    literal (String.ofList (spokeName k)) = .ok ⟨10, 0, 0, UInt8.ofNat k⟩ := by
  unfold literal Address.parse?
  rw [String.toList_ofList, fields_spokeName]
  simp only [List.map_cons, List.map_nil, Text.octet?_toDigits ⟨k, hk⟩]
  rfl

/-- All addresses are those of spokes, which differ in their last numbers. -/
def IsStar (t : Topology) : Prop :=
  ∀ e ∈ t.hosts.entries, e.2.address = ⟨10, 0, 0, e.2.address.last⟩

theorem IsStar.addHost {t : Topology} (h : t.IsStar) (name : String) (b : UInt8) :
    ∃ t', t.addHost name ⟨10, 0, 0, b⟩ = .ok t' ∧ t'.IsStar ∧ b.toUInt32 ∈ t'.nodeIds ∧
      t.nodeIds ⊆ t'.nodeIds := by
  unfold Topology.addHost
  split
  · next known hknown =>
    have hmem := NodeMap.mem_entries_iff.2 hknown
    have haddress : known.address = ⟨10, 0, 0, b⟩ := by
      have hlast : b = known.address.last := UInt8.toUInt32_inj.1 (t.keyed _ hmem)
      rw [hlast]
      exact h _ hmem
    rw [if_neg fun hboth => hboth.2 haddress]
    exact ⟨t, rfl, h, mem_nodeIds_iff.2 ⟨known, hknown⟩, fun _ hx => hx⟩
  · refine ⟨_, rfl, ?_, ?_, ?_⟩
    · intro e he
      rcases NodeMap.mem_insertEntry he with rfl | he
      · rfl
      · exact h e he
    · exact mem_nodeIds_iff.2 ⟨_, (NodeMap.find?_insert _ _ _ _).trans (if_pos rfl)⟩
    · intro x hx
      obtain ⟨host, hhost⟩ := mem_nodeIds_iff.1 hx
      rw [mem_nodeIds_iff]
      simp only [NodeMap.find?_insert]
      split
      · exact ⟨_, rfl⟩
      · exact ⟨host, hhost⟩

theorem IsStar.addLine {t : Topology} (h : t.IsStar) (number : Nat) {k : Nat} (hk : k < 256)
    (hk0 : k ≠ 0) :
    ∃ t', t.addLine literal number (spokeLine k) = .ok t' ∧ t'.IsStar ∧
      UInt32.ofNat k ∈ t'.nodeIds ∧ t.nodeIds ⊆ t'.nodeIds := by
  obtain ⟨t₁, hnear, hstar₁, -, hsub₁⟩ := h.addHost (String.ofList (spokeName 0)) 0
  obtain ⟨t₂, hfar, hstar₂, hmem, hsub₂⟩ :=
    hstar₁.addHost (String.ofList (spokeName k)) (UInt8.ofNat k)
  have hne : ¬ (0 : UInt8).toUInt32 = (UInt8.ofNat k).toUInt32 := by
    rw [UInt8.toUInt32_inj, ← UInt8.toNat_inj, UInt8.toNat_ofNat', Nat.mod_eq_of_lt hk]
    exact Ne.symm hk0
  have hk32 : (UInt8.ofNat k).toUInt32 = UInt32.ofNat k := by
    rw [← UInt32.toNat_inj, UInt8.toNat_toUInt32, UInt8.toNat_ofNat', UInt32.toNat_ofNat']
    omega
  have hline : t.addLine literal number (spokeLine k) =
      .ok (t₂.addLink ⟨(0 : UInt8).toUInt32, (UInt8.ofNat k).toUInt32, 1, hne⟩) := by
    unfold Topology.addLine
    rw [words_spokeLine]
    show (do
      let a ← literal (String.ofList (spokeName 0))
      let t ← t.addHost (String.ofList (spokeName 0)) a
      let b ← literal (String.ofList (spokeName k))
      let t ← t.addHost (String.ofList (spokeName k)) b
      if h : a.nodeId = b.nodeId then
        .error (.badLine number (String.ofList (spokeLine k)))
      else .ok (t.addLink ⟨a.nodeId, b.nodeId, 1, h⟩)) = _
    rw [literal_spokeName (by decide), literal_spokeName hk]
    have hzero : UInt8.ofNat 0 = 0 := rfl
    simp only [bind, Except.bind, hzero, hnear, hfar]
    exact dif_neg hne
  exact ⟨_, hline, hstar₂, hk32 ▸ hmem, fun x hx => hsub₂ (hsub₁ hx)⟩

theorem IsStar.addLines {ks : List Nat} (hks : ∀ k ∈ ks, k < 256 ∧ k ≠ 0) :
    ∀ {t : Topology} (number : Nat), t.IsStar →
      ∃ t', t.addLines literal number (ks.map spokeLine) = .ok t' ∧
        (∀ k ∈ ks, UInt32.ofNat k ∈ t'.nodeIds) ∧ t.nodeIds ⊆ t'.nodeIds := by
  induction ks with
  | nil => exact fun _ _ => ⟨_, rfl, fun _ hk => absurd hk List.not_mem_nil, fun _ hx => hx⟩
  | cons k ks ih =>
    intro t number hstar
    obtain ⟨hk, hk0⟩ := hks k List.mem_cons_self
    obtain ⟨t₁, hline, hstar₁, hmem, hsub₁⟩ := hstar.addLine number hk hk0
    obtain ⟨t₂, hlines, hmems, hsub₂⟩ :=
      ih (fun j hj => hks j (List.mem_cons_of_mem _ hj)) (number + 1) hstar₁
    refine ⟨t₂, ?_, ?_, fun x hx => hsub₂ (hsub₁ hx)⟩
    · rw [List.map_cons, Topology.addLines, hline]
      exact hlines
    · intro j hj
      rcases List.mem_cons.1 hj with rfl | hj
      · exact hsub₂ hmem
      · exact hmems j hj

/-- **A star with any number of hosts is accepted**, as far as there are addresses. -/
theorem parse_starText {n : Nat} (h : n < 256) :
    ∃ t, parse literal (starText n) = .ok t ∧
      ∀ k, 1 ≤ k → k ≤ n → UInt32.ofNat k ∈ t.nodeIds := by
  have hks : ∀ k ∈ List.range' 1 n, k < 256 ∧ k ≠ 0 := by
    intro k hk
    rw [List.mem_range'_1] at hk
    omega
  obtain ⟨t, hlines, hmem, -⟩ :=
    IsStar.addLines hks (t := empty) 1 fun e he => absurd he List.not_mem_nil
  refine ⟨t, ?_, fun k h1 hn => hmem k (List.mem_range'_1.2 (by omega))⟩
  rw [parse, starText, String.toList_ofList, Text.lines_flatMap]
  · exact hlines
  · intro l hl
    obtain ⟨k, -, rfl⟩ := List.mem_map.1 hl
    exact ⟨not_mem_spokeLine (by decide) (by decide) k,
      not_mem_spokeLine (by decide) (by decide) k⟩

end Topology

end OverlayStack
