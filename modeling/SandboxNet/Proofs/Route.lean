import SandboxNet.Route
import SandboxNet.Proofs.Ipv4
import SandboxNet.Proofs.Text.Words

/-! # Route tables read back

Below its heading a table has a line for each route, and any other line is passed over. A table of
such lines is read as the routes that it shows, in its order, with every bit of their destinations.
-/

namespace SandboxNet.Route

open Text Ipv4Net

variable {r : Route} {rs : List Route} {heading line text : List Char} {rows : List (List Char)}
  {x : Ipv4} {field : List Char} {fields : List (List Char)}

/-- Eight hexadecimal digits for an address. -/
def Hex (x : Ipv4) (field : List Char) : Prop :=
  field.length = 8 ∧ Numeral 16 field x.littleEndian

/-- The fields of a route. A gateway that is none is printed as zero. -/
inductive Shown (r : Route) : List (List Char) → Prop where
  | fields {destination gateway mask f₃ f₄ f₅ f₆ : List Char} {netmask : Ipv4}
      {more : List (List Char)} (hDestination : Hex r.destination.addr destination)
      (hGateway : Hex (r.gateway.getD Ipv4.unspecified) gateway)
      (isMask : IsMask netmask r.destination.len) (hMask : Hex netmask mask) :
      Shown r (r.interface.toList :: destination :: gateway :: f₃ :: f₄ :: f₅ :: f₆ :: mask :: more)

/-- Fields that give no route. -/
inductive Noise (fields : List (List Char)) : Prop where
  | short (h : fields.length < 8)
  /-- The field of an address or of the mask is no number of 32 bits. -/
  | word {i : Nat} {field : List Char} (place : i ∈ [1, 2, 7]) (h : fields[i]? = some field)
      (noWord : ∀ n < 0x100000000, ¬ Unsigned 16 field n)
  /-- The mask has a set bit after a clear one. -/
  | mask {field : List Char} {mask : Ipv4} (h : fields[7]? = some field)
      (word : Unsigned 16 field mask.littleEndian) (gap : ∀ len, ¬ IsMask mask len)

/-- The lines of a table below its heading: one for each route, and noise between them. -/
inductive Listed : List Route → List (List Char) → Prop where
  | nil : Listed [] []
  | route {r : Route} {fields : List (List Char)} {line : List Char} {rs : List Route}
      {rows : List (List Char)} (spaced : Spaced fields line) (shown : Shown r fields)
      (gateway : r.gateway ≠ some Ipv4.unspecified) (later : Listed rs rows) :
      Listed (r :: rs) (line :: rows)
  | noise {fields : List (List Char)} {line : List Char} {rs : List Route}
      {rows : List (List Char)} (spaced : Spaced fields line) (noise : Noise fields)
      (later : Listed rs rows) : Listed rs (line :: rows)

theorem ofKernelHex?_of_hex (h : Hex x field) : Ipv4.ofKernelHex? field = some x :=
  Ipv4.ofKernelHex?_eq_some_iff.2 (.plain h.2)

theorem ofKernelHex?_eq_none_iff :
    Ipv4.ofKernelHex? field = none ↔ ∀ n < 0x100000000, ¬ Unsigned 16 field n := by
  rw [Option.eq_none_iff_forall_ne_some]
  constructor
  · intro unread n word spelled
    refine unread (Ipv4.ofLittleEndian n) (Ipv4.ofKernelHex?_eq_some_iff.2 ?_)
    rwa [Ipv4.littleEndian_ofLittleEndian word]
  · intro noWord x read
    exact noWord _ x.littleEndian_lt (Ipv4.ofKernelHex?_eq_some_iff.1 read)

/-- Zero stands for no gateway. -/
theorem gateway_getD (gateway : r.gateway ≠ some Ipv4.unspecified) :
    (if r.gateway.getD Ipv4.unspecified = Ipv4.unspecified then none
      else some (r.gateway.getD Ipv4.unspecified)) = r.gateway := by
  cases h : r.gateway with
  | none => rfl
  | some x => exact if_neg fun zero => gateway (h.trans (congrArg some zero))

theorem ofFields?_shown (shown : Shown r fields) (gateway : r.gateway ≠ some Ipv4.unspecified) :
    ofFields? fields = some r := by
  cases shown with
  | fields hDestination hGateway isMask hMask =>
      rw [ofFields?, ofKernelHex?_of_hex hDestination, ofKernelHex?_of_hex hGateway,
        ofKernelHex?_of_hex hMask]
      simp only [Option.bind_eq_bind, Option.bind_some, lenOfMask?_eq_some_iff.2 isMask,
        gateway_getD gateway, String.ofList_toList]
      rfl

/-- What fields that give a route have. -/
theorem of_ofFields? (read : ofFields? fields = some r) : 8 ≤ fields.length ∧
    (∀ i ∈ [1, 2, 7], ∀ field, fields[i]? = some field → ∃ x, Ipv4.ofKernelHex? field = some x) ∧
    ∀ field mask, fields[7]? = some field → Ipv4.ofKernelHex? field = some mask →
      ∃ len, lenOfMask? mask = some len := by
  rw [ofFields?.eq_def] at read
  split at read
  · next destination gateway _ _ _ _ mask more =>
      simp only [Option.bind_eq_bind, Option.bind_eq_some_iff] at read
      obtain ⟨x, hDestination, y, hGateway, m, hMask, len, hLen, -⟩ := read
      refine ⟨by simp, ?_, ?_⟩
      · simp [hDestination, hGateway, hMask]
      · rintro field mask' same word
        cases same
        rw [hMask] at word
        cases word
        exact ⟨len, hLen⟩
  · cases read

theorem ofFields?_noise (noise : Noise fields) : ofFields? fields = none := by
  rw [Option.eq_none_iff_forall_ne_some]
  intro r read
  obtain ⟨long, numbers, masks⟩ := of_ofFields? read
  cases noise with
  | short few => omega
  | word place h noWord =>
      obtain ⟨x, word⟩ := numbers _ place _ h
      rw [ofKernelHex?_eq_none_iff.2 noWord] at word
      cases word
  | mask h word gap =>
      obtain ⟨len, isLen⟩ := masks _ _ h (Ipv4.ofKernelHex?_eq_some_iff.2 word)
      exact gap len (lenOfMask?_eq_some_iff.1 isLen)

theorem filterMap_rows (listed : Listed rs rows) : (rows.map words).filterMap ofFields? = rs := by
  induction listed with
  | nil => rfl
  | route spaced shown gateway _ ih =>
      rw [List.map_cons, spaced.words_eq, List.filterMap_cons_some (ofFields?_shown shown gateway), ih]
  | noise spaced noise _ ih =>
      rw [List.map_cons, spaced.words_eq, List.filterMap_cons_none (ofFields?_noise noise), ih]

theorem ofTable_rows (listed : Listed rs rows) (written : Lined (heading :: rows) text) :
    ofTable text = rs := by
  have same : ∀ line, words (line ++ ['\r']) = words line := fun line => words_append_blank rfl
  have read : (lines text).map words = words heading :: rows.map words := map_lines same written
  calc ofTable text
      = (((lines text).map words).drop 1).filterMap ofFields? := by
        rw [← List.map_drop, List.filterMap_map]
        rfl
    _ = (rows.map words).filterMap ofFields? := by rw [read, List.drop_one, List.tail_cons]
    _ = rs := filterMap_rows listed

/-- A table with a default route, a host bit in a destination, and lines that are too short, overflow
a word or have a mask with a gap. -/
theorem ofTable_rows_mixed :
    let routes : List Route := [
      ⟨"eth0", ⟨⟨0, 0, 0, 0⟩, 0⟩, some ⟨172, 17, 0, 1⟩⟩, ⟨"eth0", ⟨⟨172, 17, 0, 2⟩, 16⟩, none⟩]
    let heading := "Iface\tDestination\tGateway \tFlags\tRefCnt\tUse\tMetric\tMask".toList
    let rows := [
      "eth0\t00000000\t010011AC\t0003\t0\t0\t0\t00000000\t0\t0\t0  ".toList,
      "eth0\t000011AC\t00000000\t0001\t0\t0\t0".toList,
      "eth0\t100000000\t00000000\t0001\t0\t0\t0\t0000FFFF\t0\t0\t0".toList,
      "eth0\t000011AC\t00000000\t0001\t0\t0\t0\t+FF00FF\t0\t0\t0".toList,
      " eth0 020011ac 00000000 - - - - 0000ffff\r".toList]
    Listed routes rows ∧ Lined (heading :: rows) (ended (heading :: rows)) ∧
      ofTable (ended (heading :: rows)) = routes := by
  intro routes heading rows
  have hex {x field} (length : field.length = 8) (read : digits? 16 field = some x.littleEndian) :
      Hex x field := ⟨length, (digits?_eq_some_iff (by decide)).1 read⟩
  have first : Shown ⟨"eth0", ⟨⟨0, 0, 0, 0⟩, 0⟩, some ⟨172, 17, 0, 1⟩⟩ (["eth0", "00000000",
      "010011AC", "0003", "0", "0", "0", "00000000", "0", "0", "0"].map String.toList) :=
    .fields (hex rfl (by decide)) (hex rfl (by decide)) (show IsMask ⟨0, 0, 0, 0⟩ 0 by decide)
      (hex rfl (by decide))
  have last : Shown ⟨"eth0", ⟨⟨172, 17, 0, 2⟩, 16⟩, none⟩ (["eth0", "020011ac", "00000000", "-", "-",
      "-", "-", "0000ffff"].map String.toList) :=
    .fields (hex rfl (by decide)) (hex rfl (by decide)) (show IsMask ⟨255, 255, 0, 0⟩ 16 by decide)
      (hex rfl (by decide))
  have overflow : ∀ n < 0x100000000, ¬ Unsigned 16 "100000000".toList n :=
    ofKernelHex?_eq_none_iff.1 (by decide)
  have holed : Unsigned 16 "+FF00FF".toList (Ipv4.littleEndian ⟨255, 0, 255, 0⟩) :=
    Ipv4.ofKernelHex?_eq_some_iff.1 (by decide)
  have gap : ∀ len, ¬ IsMask ⟨255, 0, 255, 0⟩ len := by decide
  have listed : Listed routes rows := by
    refine .route (words_eq_iff.1 (by decide)) first (by decide) ?_
    refine .noise (spaced_words _) (.short (by decide)) ?_
    refine .noise (spaced_words _) (.word (show 1 ∈ [1, 2, 7] by decide) (by decide) overflow) ?_
    refine .noise (spaced_words _) (.mask (by decide) holed gap) ?_
    exact .route (words_eq_iff.1 (by decide)) last (by decide) .nil
  have written : Lined (heading :: rows) (ended (heading :: rows)) := lined_ended (by decide)
  exact ⟨listed, written, ofTable_rows listed written⟩

end SandboxNet.Route
