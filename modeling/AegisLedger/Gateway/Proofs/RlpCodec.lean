import AegisLedger.Gateway.Eip1559

/-!
# RLP items and their canonical form

`encodeRlp` writes any RLP value in the one form the encoder of
`aegisledger/eip1559.py` uses: no shorter header would do, and lengths carry no
leading zero.  The reader inverts it, and whatever the reader accepts was written
by it.  Both facts are stated for an item that stands somewhere inside a buffer,
since the reader passes absolute offsets around.
-/

namespace AegisLedger.Gateway.RlpCodec

open AegisLedger.Support Checks Eip1559

/-! ## Big-endian integers -/

/-- Bytes of the shortest big-endian form: `(value.bit_length() + 7) // 8`. -/
def byteLength (value : Nat) : Nat :=
  ((if value = 0 then 0 else Nat.log2 value + 1) + 7) / 8

theorem byteLength_le_iff (value size : Nat) :
    byteLength value ≤ size ↔ value < 256 ^ size := by
  have hpow : 256 ^ size = 2 ^ (8 * size) := by
    rw [Nat.pow_mul]
  rw [hpow]
  unfold byteLength
  by_cases hzero : value = 0
  · simp [hzero]
  · rw [if_neg hzero, ← Nat.log2_lt hzero]
    omega

theorem byteLength_div {value : Nat} (hvalue : value ≠ 0) :
    byteLength value = byteLength (value / 256) + 1 := by
  have hle : ∀ size, byteLength value ≤ size + 1 ↔ byteLength (value / 256) ≤ size := by
    intro size
    rw [byteLength_le_iff, byteLength_le_iff, Nat.div_lt_iff_lt_mul (by omega), Nat.pow_succ]
  have hpos : 0 < byteLength value := by
    by_contra hnot
    have hlt := (byteLength_le_iff value 0).mp (by omega)
    simp at hlt
    exact hvalue hlt
  have hup := (hle (byteLength (value / 256))).mpr le_rfl
  have hdown := (hle (byteLength value - 1)).mp (by omega)
  omega

@[simp] theorem length_toBytes (value : Nat) : (toBytes value).length = byteLength value := by
  simp [toBytes, byteLength]

@[simp] theorem toBytes_zero : toBytes 0 = [] := rfl

theorem toBytes_eq_append {value : Nat} (hvalue : value ≠ 0) :
    toBytes value = toBytes (value / 256) ++ [UInt8.ofNat (value % 256)] := by
  have hunfold : ∀ n, toBytes n =
      (List.range (byteLength n)).reverse.map fun i => UInt8.ofNat (n / 256 ^ i % 256) :=
    fun _ => rfl
  rw [hunfold, hunfold, byteLength_div hvalue, List.range_succ_eq_map]
  simp [Nat.pow_succ', Nat.div_div_eq_div_mul, List.map_reverse, Function.comp_def]

@[simp] theorem fromBytes_append_singleton (data : Bytes) (b : UInt8) :
    fromBytes (data ++ [b]) = fromBytes data * 256 + b.toNat := by
  simp [fromBytes]

@[simp] theorem fromBytes_toBytes (value : Nat) : fromBytes (toBytes value) = value := by
  induction value using Nat.strong_induction_on with
  | _ value ih =>
    by_cases hvalue : value = 0
    · rw [hvalue]
      rfl
    · have hlt : value / 256 < value := by omega
      have hbyte : (UInt8.ofNat (value % 256)).toNat = value % 256 := by
        simp
      rw [toBytes_eq_append hvalue, fromBytes_append_singleton, ih _ hlt, hbyte]
      omega

variable {data : Bytes}

theorem toBytes_fromBytes (hcanonical : data.head? ≠ some 0) : toBytes (fromBytes data) = data := by
  induction data using List.reverseRecOn with
  | nil => rfl
  | append_singleton data b ih =>
    have hlast := b.toNat_lt
    have hdata : toBytes (fromBytes data) = data := by
      apply ih
      intro hhead
      apply hcanonical
      rw [List.head?_append, hhead]
      rfl
    have hvalue : fromBytes data * 256 + b.toNat ≠ 0 := by
      intro hzero
      have hnil : data = [] := by
        rw [← hdata, show fromBytes data = 0 by omega]
        rfl
      have hb : b = 0 := by
        apply UInt8.toNat_inj.mp
        simp
        omega
      exact hcanonical (by simp [hnil, hb])
    have hdiv : (fromBytes data * 256 + b.toNat) / 256 = fromBytes data := by omega
    have hmod : (fromBytes data * 256 + b.toNat) % 256 = b.toNat := by omega
    rw [fromBytes_append_singleton, toBytes_eq_append hvalue, hdiv, hmod, hdata]
    simp

theorem head?_toBytes (value : Nat) : (toBytes value).head? ≠ some 0 := by
  induction value using Nat.strong_induction_on with
  | _ value ih =>
    by_cases hvalue : value = 0
    · simp [hvalue]
    · have hlt : value / 256 < value := by omega
      rw [toBytes_eq_append hvalue, List.head?_append]
      by_cases hsmall : value / 256 = 0
      · intro hhead
        have hbyte : UInt8.ofNat (value % 256) = 0 := by
          simpa [hsmall] using hhead
        have hnat := congrArg UInt8.toNat hbyte
        simp at hnat
        omega
      · intro hhead
        cases hfirst : (toBytes (value / 256)).head? with
        | none =>
          have hnil := List.head?_eq_none_iff.mp hfirst
          have hzero := fromBytes_toBytes (value / 256)
          rw [hnil] at hzero
          exact hsmall hzero.symm
        | some first =>
          rw [hfirst] at hhead
          exact ih _ hlt (hfirst.trans hhead)

/-! ## Slices -/

variable {start stop : Nat}

theorem length_slice (hstop : stop ≤ data.length) :
    (slice data start stop).length = stop - start := by
  rw [slice, List.length_take, List.length_drop]
  omega

theorem slice_self (data : Bytes) (start : Nat) : slice data start start = [] := by
  simp [slice]

theorem slice_all (data : Bytes) (start : Nat) :
    slice data start data.length = data.drop start := by
  rw [slice, ← List.length_drop, List.take_length]

theorem slice_append {middle : Nat} (hstart : start ≤ middle) (hmiddle : middle ≤ stop) :
    slice data start middle ++ slice data middle stop = slice data start stop := by
  have hdrop : data.drop middle = (data.drop start).drop (middle - start) := by
    rw [List.drop_drop]
    congr 1
    omega
  have hsize : stop - start = (middle - start) + (stop - middle) := by omega
  rw [slice, slice, slice, hdrop, hsize, List.take_add]

theorem slice_succ (hstart : start < data.length) :
    slice data start (start + 1) = [data.getD start 0] := by
  rw [slice, Nat.add_sub_cancel_left, List.drop_eq_getElem_cons hstart,
    List.getD_eq_getElem _ _ hstart]
  rfl

theorem slice_append_left (before item after : Bytes) :
    slice (before ++ item ++ after) before.length (before.length + item.length) = item := by
  simp [slice]

theorem getD_append_cons (before : Bytes) (b : UInt8) (after : Bytes) :
    (before ++ b :: after).getD before.length 0 = b := by
  simp

/-! ## The canonical form -/

mutual

/-- The canonical encoding of an RLP value. -/
def encodeRlp : RlpValue → Bytes
  | .bytes value => encodeBytes value
  | .list items => withHeader 0xC0 0xF7 (encodeItems items)

def encodeItems : List RlpValue → Bytes
  | [] => []
  | item :: items => encodeRlp item ++ encodeItems items

end

mutual

/-- Lists around the innermost value. -/
def depth : RlpValue → Nat
  | .bytes _ => 0
  | .list items => depthItems items + 1

def depthItems : List RlpValue → Nat
  | [] => 0
  | item :: items => max (depth item) (depthItems items)

end

@[simp] theorem encodeItems_append (xs ys : List RlpValue) :
    encodeItems (xs ++ ys) = encodeItems xs ++ encodeItems ys := by
  induction xs with
  | nil => rfl
  | cons x xs ih =>
    rw [List.cons_append, encodeItems, ih, encodeItems, List.append_assoc]

variable {short long : Nat} {payload : Bytes}

theorem withHeader_short (h : payload.length < 56) :
    withHeader short long payload = UInt8.ofNat (short + payload.length) :: payload := by
  rw [withHeader, if_pos h]

theorem withHeader_long (h : 56 ≤ payload.length) :
    withHeader short long payload =
      UInt8.ofNat (long + byteLength payload.length) ::
        (toBytes payload.length ++ payload) := by
  rw [withHeader, if_neg (by omega)]
  simp

theorem withHeader_ne_nil (short long : Nat) (payload : Bytes) :
    withHeader short long payload ≠ [] := by
  rcases Nat.lt_or_ge payload.length 56 with h | h
  · simp [withHeader_short h]
  · simp [withHeader_long h]

theorem length_le_withHeader (short long : Nat) (payload : Bytes) :
    payload.length ≤ (withHeader short long payload).length := by
  rcases Nat.lt_or_ge payload.length 56 with h | h
  · rw [withHeader_short h, List.length_cons]
    omega
  · rw [withHeader_long h, List.length_cons, List.length_append]
    omega

theorem encodeBytes_single {b : UInt8} (h : b.toNat < 0x80) : encodeBytes [b] = [b] := by
  simp [encodeBytes, h]

theorem encodeBytes_headed {value : Bytes}
    (h : ¬(value.length = 1 ∧ (value.getD 0 0).toNat < 0x80)) :
    encodeBytes value = withHeader 0x80 0xB7 value := by
  rw [encodeBytes, if_neg h]

theorem encodeRlp_ne_nil (value : RlpValue) : encodeRlp value ≠ [] := by
  cases value with
  | bytes value =>
    rw [encodeRlp]
    by_cases h : value.length = 1 ∧ (value.getD 0 0).toNat < 0x80
    · rw [encodeBytes, if_pos h]
      intro hnil
      simp [hnil] at h
    · rw [encodeBytes_headed h]
      exact withHeader_ne_nil _ _ _
  | list items =>
    rw [encodeRlp]
    exact withHeader_ne_nil _ _ _

/-! ## What the reader accepts is canonical -/

/-- One item was read between `offset` and `next`, and it stands there in
canonical form. -/
def ReadsCanonical (data : Bytes) (decode : Nat → Except Eip1559DecodeError (RlpValue × Nat)) :
    Prop :=
  ∀ offset value next, decode offset = .ok (value, next) →
    offset < next ∧ next ≤ data.length ∧ slice data offset next = encodeRlp value

variable {offset length : Nat}

theorem readLength_spec {size : Nat} (h : readLength data offset size = .ok (length, start)) :
    start = offset + size ∧ start ≤ data.length ∧ byteLength length = size ∧
      slice data offset start = toBytes length := by
  rw [readLength, raiseIf_bind_eq_ok, pure_eq_ok, Prod.mk.injEq] at h
  obtain ⟨hguard, hlength, hstart⟩ := h
  push Not at hguard
  obtain ⟨hsize, hbound, hfirst⟩ := hguard
  have hcons : slice data offset (offset + size) =
      data.getD offset 0 :: slice data (offset + 1) (offset + size) := by
    rw [← slice_append (show offset ≤ offset + 1 by omega) (by omega), slice_succ (by omega)]
    rfl
  have hbytes : toBytes length = slice data offset (offset + size) := by
    rw [← hlength]
    apply toBytes_fromBytes
    rw [hcons]
    simpa using hfirst
  refine ⟨hstart.symm, by omega, ?_, ?_⟩
  · rw [← length_toBytes, hbytes, length_slice hbound]
    omega
  · rw [hbytes, hstart]

variable {decode : Nat → Except Eip1559DecodeError (RlpValue × Nat)}

theorem decodeItems_spec (hdecode : ReadsCanonical data decode) :
    ∀ (bytesLeft cursor : Nat) (items : List RlpValue) {result : List RlpValue} {last : Nat},
      decodeItems decode stop bytesLeft cursor items = .ok (result, last) → cursor ≤ stop →
      ∃ more, result = items ++ more ∧ cursor ≤ last ∧ last ≤ stop ∧
        slice data cursor last = encodeItems more ∧
        ∀ item ∈ more, ∃ offset next, decode offset = .ok (item, next) := by
  intro bytesLeft
  induction bytesLeft with
  | zero =>
    intro cursor items result last h hcursor
    simp only [decodeItems, Except.ok.injEq, Prod.mk.injEq] at h
    obtain ⟨rfl, rfl⟩ := h
    exact ⟨[], by simp, le_rfl, hcursor, slice_self data cursor, nofun⟩
  | succ bytesLeft ih =>
    intro cursor items result last h hcursor
    rw [decodeItems] at h
    by_cases hmore : cursor < stop
    · rw [if_pos hmore, bind_eq_ok] at h
      obtain ⟨⟨item, next⟩, hitem, h⟩ := h
      rw [raiseIf_bind_eq_ok] at h
      obtain ⟨hinside, h⟩ := h
      obtain ⟨hprogress, -, hslice⟩ := hdecode cursor item next hitem
      obtain ⟨more, hresult, hnext, hlast, hrest, hread⟩ := ih next _ h (by omega)
      refine ⟨item :: more, ?_, by omega, hlast, ?_,
        List.forall_mem_cons.mpr ⟨⟨cursor, next, hitem⟩, hread⟩⟩
      · rw [hresult, List.append_assoc]
        rfl
      · rw [← slice_append (by omega) hnext, hslice, hrest, encodeItems]
    · rw [if_neg hmore, Except.ok.injEq, Prod.mk.injEq] at h
      obtain ⟨rfl, rfl⟩ := h
      exact ⟨[], by simp, le_rfl, hcursor, slice_self data cursor, nofun⟩

variable {next : Nat}

theorem decodeList_spec (hdecode : ReadsCanonical data decode) {value : RlpValue}
    (h : decodeList data decode start length = .ok (value, next)) :
    ∃ items, value = .list items ∧ next = start + length ∧ next ≤ data.length ∧
      slice data start next = encodeItems items ∧
      ∀ item ∈ items, ∃ offset next, decode offset = .ok (item, next) := by
  rw [decodeList, raiseIf_bind_eq_ok, bind_eq_ok] at h
  obtain ⟨hbound, ⟨items, cursor⟩, hitems, h⟩ := h
  rw [raiseIf_bind_eq_ok, pure_eq_ok, Prod.mk.injEq] at h
  obtain ⟨hcursor, rfl, rfl⟩ := h
  obtain ⟨more, hmore, -, -, hslice, hread⟩ := decodeItems_spec hdecode _ _ _ hitems (by omega)
  rw [not_not] at hcursor
  rw [List.nil_append] at hmore
  rw [hcursor, ← hmore] at hslice
  exact ⟨items, rfl, rfl, by omega, hslice, hmore ▸ hread⟩

/-- A header byte followed by its payload. -/
theorem slice_header (hnext : offset < next) (hbound : next ≤ data.length) :
    slice data offset next = data.getD offset 0 :: slice data (offset + 1) next := by
  rw [← slice_append (show offset ≤ offset + 1 by omega) (by omega), slice_succ (by omega)]
  rfl

theorem slice_short (hnext : offset + 1 ≤ next) (hbound : next ≤ data.length)
    (hhead : (data.getD offset 0).toNat = short + (next - (offset + 1)))
    (hsmall : next - (offset + 1) < 56) (hpayload : slice data (offset + 1) next = payload) :
    slice data offset next = withHeader short long payload := by
  have hlength : payload.length = next - (offset + 1) := by
    rw [← hpayload, length_slice hbound]
  rw [slice_header (by omega) hbound, hpayload, withHeader_short (by omega), hlength, ← hhead]
  simp

theorem slice_long (hread : readLength data (offset + 1) ((data.getD offset 0).toNat - long) =
      .ok (length, start)) (hhead : long < (data.getD offset 0).toNat) (hbig : 56 ≤ length)
    (hbound : start + length ≤ data.length)
    (hpayload : slice data start (start + length) = payload) :
    slice data offset (start + length) = withHeader short long payload := by
  obtain ⟨hstart, -, hsize, hdigits⟩ := readLength_spec hread
  have hlength : payload.length = length := by
    rw [← hpayload, length_slice hbound]
    omega
  have hfirst : long + byteLength length = (data.getD offset 0).toNat := by omega
  rw [slice_header (by omega) hbound, withHeader_long (by omega), hlength, hfirst,
    ← slice_append (show offset + 1 ≤ start by omega) (by omega), hdigits, hpayload]
  simp

theorem decodeItem_spec (hdecode : ReadsCanonical data decode) {value : RlpValue}
    (hoffset : offset < data.length) (h : decodeItem data decode offset = .ok (value, next)) :
    offset < next ∧ next ≤ data.length ∧ slice data offset next = encodeRlp value := by
  have hbyte := (data.getD offset 0).toNat_lt
  rw [decodeItem] at h
  dsimp only at h
  split_ifs at h with hsingle hshort hlong hlist
  · rw [pure_eq_ok, Prod.mk.injEq] at h
    obtain ⟨rfl, rfl⟩ := h
    refine ⟨by omega, by omega, ?_⟩
    rw [slice_succ hoffset, encodeRlp, encodeBytes_single (by omega)]
  · rw [raiseIf_bind_eq_ok, raiseIf_bind_eq_ok, pure_eq_ok, Prod.mk.injEq] at h
    obtain ⟨hbound, hcanonical, rfl, rfl⟩ := h
    refine ⟨by omega, by omega, ?_⟩
    rw [encodeRlp, encodeBytes_headed]
    · exact slice_short (by omega) (by omega) (by omega) (by omega) rfl
    · rw [length_slice (by omega)]
      rintro ⟨hone, hsmall⟩
      apply hcanonical
      refine ⟨by omega, ?_⟩
      rwa [slice_header (by omega) (by omega)] at hsmall
  · rw [bind_eq_ok] at h
    obtain ⟨⟨length, start⟩, hread, h⟩ := h
    rw [raiseIf_bind_eq_ok, raiseIf_bind_eq_ok, pure_eq_ok, Prod.mk.injEq] at h
    obtain ⟨hbig, hbound, rfl, rfl⟩ := h
    obtain ⟨hstart, -, -, -⟩ := readLength_spec hread
    refine ⟨by omega, by omega, ?_⟩
    rw [encodeRlp, encodeBytes_headed]
    · exact slice_long hread (by omega) (by omega) (by omega) rfl
    · rw [length_slice (by omega)]
      omega
  · obtain ⟨items, hvalue, hnext, hbound, hitems, -⟩ := decodeList_spec hdecode h
    refine ⟨by omega, hbound, ?_⟩
    rw [hvalue, encodeRlp]
    exact slice_short (by omega) hbound (by omega) (by omega) hitems
  · rw [bind_eq_ok] at h
    obtain ⟨⟨length, start⟩, hread, h⟩ := h
    rw [raiseIf_bind_eq_ok] at h
    obtain ⟨hbig, h⟩ := h
    obtain ⟨items, rfl, rfl, hbound, hitems, -⟩ := decodeList_spec hdecode h
    obtain ⟨hstart, -, -, -⟩ := readLength_spec hread
    refine ⟨by omega, hbound, ?_⟩
    rw [encodeRlp]
    exact slice_long hread (by omega) (by omega) hbound hitems

theorem readsCanonical_decodeRlpLevels (data : Bytes) (levels : Nat) :
    ReadsCanonical data (decodeRlpLevels data levels) := by
  induction levels with
  | zero =>
    intro offset value next h
    rw [decodeRlpLevels, raiseIf_bind_eq_ok] at h
    exact absurd h.2 (by simp)
  | succ levels ih =>
    intro offset value next h
    rw [decodeRlpLevels, raiseIf_bind_eq_ok] at h
    exact decodeItem_spec ih (by omega) h.2

/-! ## The reader inverts the canonical form -/

theorem readLength_toBytes (before after : Bytes) (hlength : length ≠ 0) :
    readLength (before ++ toBytes length ++ after) before.length (byteLength length) =
      .ok (length, before.length + byteLength length) := by
  have hpos : byteLength length ≠ 0 := by
    rw [byteLength_div hlength]
    omega
  have hslice : slice (before ++ toBytes length ++ after) before.length
      (before.length + byteLength length) = toBytes length := by
    rw [← length_toBytes]
    exact slice_append_left before (toBytes length) after
  have hfirst : (before ++ toBytes length ++ after).getD before.length 0 ≠ 0 := by
    cases hbytes : toBytes length with
    | nil =>
      rw [← length_toBytes, hbytes] at hpos
      exact absurd rfl hpos
    | cons b rest =>
      have hhead := head?_toBytes length
      rw [hbytes] at hhead
      rw [List.append_assoc, List.cons_append, getD_append_cons]
      simpa using hhead
  rw [readLength, raiseIf_bind_eq_ok, pure_eq_ok, hslice, fromBytes_toBytes]
  refine ⟨?_, rfl⟩
  push Not
  refine ⟨hpos, ?_, hfirst⟩
  simp

theorem encodeItems_length_cons (item : RlpValue) (items : List RlpValue) :
    (encodeItems (item :: items)).length =
      (encodeRlp item).length + (encodeItems items).length := by
  rw [encodeItems, List.length_append]

/-- `decode` reads back every item of `items`, wherever it stands in `data`. -/
def ReadsBack (data : Bytes) (decode : Nat → Except Eip1559DecodeError (RlpValue × Nat))
    (value : RlpValue) : Prop :=
  ∀ before after, data = before ++ encodeRlp value ++ after →
    decode before.length = .ok (value, before.length + (encodeRlp value).length)

theorem decodeItems_encodeItems :
    ∀ (items : List RlpValue) (before after : Bytes) (done : List RlpValue) (bytesLeft : Nat),
      (∀ item ∈ items, ReadsBack data decode item) →
      data = before ++ encodeItems items ++ after → (encodeItems items).length ≤ bytesLeft →
      decodeItems decode (before.length + (encodeItems items).length) bytesLeft before.length
        done = .ok (done ++ items, before.length + (encodeItems items).length) := by
  intro items
  induction items with
  | nil =>
    intro before after done bytesLeft _ _ _
    cases bytesLeft with
    | zero => simp [decodeItems, encodeItems]
    | succ bytesLeft => simp [decodeItems, encodeItems]
  | cons item items ih =>
    intro before after done bytesLeft hreads hdata hleft
    have hpos := List.length_pos_iff.mpr (encodeRlp_ne_nil item)
    have hsize := encodeItems_length_cons item items
    obtain ⟨left, rfl⟩ : ∃ left, bytesLeft = left + 1 := ⟨bytesLeft - 1, by omega⟩
    have hitem := hreads item List.mem_cons_self before (encodeItems items ++ after)
      (by rw [hdata, encodeItems]; simp)
    have hrest := ih (before ++ encodeRlp item) after (done ++ [item]) left
      (fun other hother => hreads other (List.mem_cons_of_mem _ hother))
      (by rw [hdata, encodeItems]; simp) (by omega)
    rw [List.length_append, List.append_assoc, Nat.add_assoc, ← hsize] at hrest
    rw [decodeItems, if_pos (by omega), hitem]
    simp only [bind, Except.bind, raiseIf]
    rw [if_neg (by omega)]
    exact hrest

variable {before after : Bytes}

/-- Where the header and the payload of a short item stand. -/
theorem short_at (hdata : data = before ++ withHeader short long payload ++ after)
    (hsmall : payload.length < 56) (hshort : short + 55 < 256) :
    (data.getD before.length 0).toNat = short + payload.length ∧
      before.length + 1 + payload.length ≤ data.length ∧
      slice data (before.length + 1) (before.length + 1 + payload.length) = payload := by
  have hsplit : data = before ++ [UInt8.ofNat (short + payload.length)] ++ payload ++ after := by
    rw [hdata, withHeader_short hsmall]
    simp
  have hslice := slice_append_left (before ++ [UInt8.ofNat (short + payload.length)])
    payload after
  rw [← hsplit, List.length_append, List.length_singleton] at hslice
  refine ⟨?_, ?_, hslice⟩
  · rw [hsplit]
    simp
    omega
  · rw [hsplit]
    simp
    omega

/-- Where the header, the digits of the length and the payload of a long item stand. -/
theorem long_at (hdata : data = before ++ withHeader short long payload ++ after)
    (hbig : 56 ≤ payload.length) (hsize : payload.length < 256 ^ 8) (hlong : long + 8 < 256) :
    (data.getD before.length 0).toNat = long + byteLength payload.length ∧
      1 ≤ byteLength payload.length ∧ byteLength payload.length ≤ 8 ∧
      readLength data (before.length + 1) (byteLength payload.length) =
        .ok (payload.length, before.length + 1 + byteLength payload.length) ∧
      before.length + 1 + byteLength payload.length + payload.length ≤ data.length ∧
      slice data (before.length + 1 + byteLength payload.length)
        (before.length + 1 + byteLength payload.length + payload.length) = payload := by
  have hdigits : byteLength payload.length ≤ 8 := (byteLength_le_iff _ _).mpr hsize
  have hpos : 1 ≤ byteLength payload.length := by
    rw [byteLength_div (by omega)]
    omega
  have hsplit : data = before ++ [UInt8.ofNat (long + byteLength payload.length)] ++
      toBytes payload.length ++ (payload ++ after) := by
    rw [hdata, withHeader_long hbig]
    simp
  have hread := readLength_toBytes (before ++ [UInt8.ofNat (long + byteLength payload.length)])
    (payload ++ after) (show payload.length ≠ 0 by omega)
  rw [← hsplit, List.length_append, List.length_singleton] at hread
  have hslice := slice_append_left (before ++ [UInt8.ofNat (long + byteLength payload.length)]
    ++ toBytes payload.length) payload after
  rw [List.append_assoc _ payload after, ← hsplit] at hslice
  simp only [List.length_append, List.length_singleton, length_toBytes] at hslice
  refine ⟨?_, hpos, hdigits, hread, ?_, hslice⟩
  · rw [hsplit]
    simp
    omega
  · rw [hsplit]
    simp
    omega

theorem length_withHeader_short (h : payload.length < 56) :
    (withHeader short long payload).length = 1 + payload.length := by
  rw [withHeader_short h, List.length_cons]
  omega

theorem length_withHeader_long (h : 56 ≤ payload.length) :
    (withHeader short long payload).length =
      1 + byteLength payload.length + payload.length := by
  rw [withHeader_long h, List.length_cons, List.length_append, length_toBytes]
  omega

theorem decodeItem_encodeBytes {value : Bytes}
    (hdata : data = before ++ encodeBytes value ++ after) (hsize : value.length < 256 ^ 8) :
    decodeItem data decode before.length =
      .ok (.bytes value, before.length + (encodeBytes value).length) := by
  by_cases hone : value.length = 1 ∧ (value.getD 0 0).toNat < 0x80
  · obtain ⟨b, rfl⟩ := List.length_eq_one_iff.mp hone.1
    have hsingle : b.toNat < 0x80 := by simpa using hone.2
    have hfirst : data.getD before.length 0 = b := by
      rw [hdata, encodeBytes_single hsingle]
      simp
    rw [encodeBytes_single hsingle, decodeItem]
    dsimp only
    rw [hfirst, if_pos (by omega)]
    rfl
  · rw [encodeBytes_headed hone] at hdata ⊢
    rcases Nat.lt_or_ge value.length 56 with hsmall | hbig
    · obtain ⟨hfirst, hbound, hslice⟩ := short_at hdata hsmall (by omega)
      have hnext : before.length + (withHeader 0x80 0xB7 value).length =
          before.length + 1 + value.length := by
        rw [length_withHeader_short hsmall]
        omega
      have hcanonical : ¬(value.length = 1 ∧ (data.getD (before.length + 1) 0).toNat < 0x80) := by
        rintro ⟨hlength, hlow⟩
        apply hone
        refine ⟨hlength, ?_⟩
        rw [hlength] at hslice hbound
        rw [← hslice, slice_succ (by omega)]
        exact hlow
      have hlength : 0x80 + value.length - 0x80 = value.length := by omega
      rw [decodeItem, hnext]
      dsimp only
      rw [hfirst, if_neg (by omega), if_pos (by omega), hlength, raiseIf_bind_eq_ok,
        raiseIf_bind_eq_ok, pure_eq_ok, hslice]
      exact ⟨by omega, hcanonical, rfl⟩
    · obtain ⟨hfirst, hpos, hdigits, hread, hbound, hslice⟩ :=
        long_at hdata hbig hsize (by omega)
      have hnext : before.length + (withHeader 0x80 0xB7 value).length =
          before.length + 1 + byteLength value.length + value.length := by
        rw [length_withHeader_long hbig]
        omega
      have hdigitCount : 0xB7 + byteLength value.length - 0xB7 = byteLength value.length := by
        omega
      rw [decodeItem, hnext]
      dsimp only
      rw [hfirst, if_neg (by omega), if_neg (by omega), if_pos (by omega), hdigitCount, bind_eq_ok]
      refine ⟨_, hread, ?_⟩
      dsimp only
      rw [raiseIf_bind_eq_ok, raiseIf_bind_eq_ok, pure_eq_ok, hslice]
      exact ⟨by omega, by omega, rfl⟩

variable {items : List RlpValue}

theorem decodeList_encodeItems (hdata : data = before ++ encodeItems items ++ after)
    (hreads : ∀ item ∈ items, ReadsBack data decode item) :
    decodeList data decode before.length (encodeItems items).length =
      .ok (.list items, before.length + (encodeItems items).length) := by
  have hitems := decodeItems_encodeItems items before after [] _ hreads hdata le_rfl
  rw [decodeList, raiseIf_bind_eq_ok, bind_eq_ok]
  refine ⟨?_, _, hitems, ?_⟩
  · rw [hdata]
    simp
  · rw [raiseIf_bind_eq_ok, pure_eq_ok]
    exact ⟨by simp, rfl⟩

theorem decodeItem_encodeList (hdata : data = before ++ encodeRlp (.list items) ++ after)
    (hsize : (encodeItems items).length < 256 ^ 8)
    (hreads : ∀ item ∈ items, ReadsBack data decode item) :
    decodeItem data decode before.length =
      .ok (.list items, before.length + (encodeRlp (.list items)).length) := by
  rw [encodeRlp] at hdata ⊢
  rcases Nat.lt_or_ge (encodeItems items).length 56 with hsmall | hbig
  · obtain ⟨hfirst, -, -⟩ := short_at hdata hsmall (by omega)
    rw [withHeader_short hsmall] at hdata
    have hsplit : data = (before ++ [UInt8.ofNat (0xC0 + (encodeItems items).length)]) ++
        encodeItems items ++ after := by
      rw [hdata]
      simp
    have hlist := decodeList_encodeItems hsplit hreads
    have hlength : 0xC0 + (encodeItems items).length - 0xC0 = (encodeItems items).length := by
      omega
    rw [List.length_append, List.length_singleton] at hlist
    rw [length_withHeader_short hsmall, decodeItem]
    dsimp only
    rw [hfirst, if_neg (by omega), if_neg (by omega), if_neg (by omega), if_pos (by omega),
      hlength, hlist, Nat.add_assoc]
  · obtain ⟨hfirst, hpos, hdigits, hread, -, -⟩ := long_at hdata hbig hsize (by omega)
    rw [withHeader_long hbig] at hdata
    have hsplit : data = (before ++ [UInt8.ofNat (0xF7 + byteLength (encodeItems items).length)] ++
        toBytes (encodeItems items).length) ++ encodeItems items ++ after := by
      rw [hdata]
      simp
    have hlist := decodeList_encodeItems hsplit hreads
    simp only [List.length_append, List.length_singleton, length_toBytes] at hlist
    have hdigitCount : 0xF7 + byteLength (encodeItems items).length - 0xF7 =
        byteLength (encodeItems items).length := by
      omega
    rw [length_withHeader_long hbig, decodeItem]
    dsimp only
    rw [hfirst, if_neg (by omega), if_neg (by omega), if_neg (by omega), if_neg (by omega),
      hdigitCount, bind_eq_ok]
    refine ⟨_, hread, ?_⟩
    dsimp only
    rw [raiseIf_bind_eq_ok, hlist]
    refine ⟨by omega, ?_⟩
    rw [Nat.add_assoc, Nat.add_assoc, Nat.add_assoc]

theorem length_le_encodeItems {item : RlpValue} (h : item ∈ items) :
    (encodeRlp item).length ≤ (encodeItems items).length := by
  induction items with
  | nil => cases h
  | cons other items ih =>
    rw [encodeItems_length_cons]
    rcases List.mem_cons.mp h with rfl | hmem
    · omega
    · have hrest := ih hmem
      omega

theorem depth_le_depthItems {item : RlpValue} (h : item ∈ items) :
    depth item ≤ depthItems items := by
  induction items with
  | nil => cases h
  | cons other items ih =>
    rw [depthItems]
    rcases List.mem_cons.mp h with rfl | hmem
    · exact le_max_left _ _
    · exact (ih hmem).trans (le_max_right _ _)

/-- A value that the reader can hold in so many levels, with lengths of at most eight digits. -/
def Fits : Nat → RlpValue → Prop
  | 0, _ => False
  | _ + 1, .bytes value => value.length < 256 ^ 8
  | levels + 1, .list items =>
    (encodeItems items).length < 256 ^ 8 ∧ ∀ item ∈ items, Fits levels item

theorem fits_of_depth (levels : Nat) :
    ∀ value, depth value < levels → (encodeRlp value).length < 256 ^ 8 → Fits levels value := by
  induction levels with
  | zero =>
    intro value hdepth
    omega
  | succ levels ih =>
    intro value hdepth hsize
    cases value with
    | bytes value =>
      rw [encodeRlp, encodeBytes] at hsize
      have hpayload := length_le_withHeader 0x80 0xB7 value
      rw [Fits]
      split_ifs at hsize
      · exact hsize
      · omega
    | list items =>
      have hpayload := length_le_withHeader 0xC0 0xF7 (encodeItems items)
      rw [depth] at hdepth
      rw [encodeRlp] at hsize
      refine ⟨by omega, fun item hitem => ?_⟩
      have hlevel := depth_le_depthItems hitem
      have hlength := length_le_encodeItems hitem
      exact ih item (by omega) (by omega)

theorem readsBack_decodeRlpLevels (data : Bytes) (levels : Nat) :
    ∀ value, Fits levels value → ReadsBack data (decodeRlpLevels data levels) value := by
  induction levels with
  | zero => exact fun _ hfits => hfits.elim
  | succ levels ih =>
    intro value hfits before after hdata
    have hpos := List.length_pos_iff.mpr (encodeRlp_ne_nil value)
    rw [decodeRlpLevels, raiseIf_bind_eq_ok]
    refine ⟨?_, ?_⟩
    · rw [hdata, List.length_append, List.length_append]
      omega
    · cases value with
      | bytes value => exact decodeItem_encodeBytes hdata hfits
      | list items =>
        exact decodeItem_encodeList hdata hfits.1 fun item hitem => ih item (hfits.2 item hitem)

/-! ## What was read fits -/

variable {levels : Nat} {value : RlpValue}
  (hfits : ∀ offset value next, decode offset = .ok (value, next) → Fits levels value)
  (hdecode : ReadsCanonical data decode)

include hfits hdecode

theorem fits_of_decodeList (hsize : length < 256 ^ 8)
    (h : decodeList data decode start length = .ok (value, next)) : Fits (levels + 1) value := by
  obtain ⟨items, rfl, hnext, hbound, hslice, hread⟩ := decodeList_spec hdecode h
  refine ⟨?_, fun item hitem => ?_⟩
  · rw [← hslice, length_slice hbound]
    omega
  · obtain ⟨offset, next, hitem⟩ := hread item hitem
    exact hfits offset item next hitem

theorem fits_of_decodeItem (h : decodeItem data decode offset = .ok (value, next)) :
    Fits (levels + 1) value := by
  have hbyte := (data.getD offset 0).toNat_lt
  have hlength : ∀ {size length start}, readLength data (offset + 1) size = .ok (length, start) →
      size ≤ 8 → length < 256 ^ 8 := by
    intro size length start hread hsize
    rw [← byteLength_le_iff, (readLength_spec hread).2.2.1]
    exact hsize
  rw [decodeItem] at h
  dsimp only at h
  split_ifs at h with hsingle hshort hlong hlist
  · rw [pure_eq_ok, Prod.mk.injEq] at h
    rw [← h.1, Fits]
    norm_num
  · rw [raiseIf_bind_eq_ok, raiseIf_bind_eq_ok, pure_eq_ok, Prod.mk.injEq] at h
    rw [← h.2.2.1, Fits, length_slice (by omega)]
    omega
  · rw [bind_eq_ok] at h
    obtain ⟨⟨length, start⟩, hread, h⟩ := h
    rw [raiseIf_bind_eq_ok, raiseIf_bind_eq_ok, pure_eq_ok, Prod.mk.injEq] at h
    rw [← h.2.2.1, Fits, length_slice (by omega), Nat.add_sub_cancel_left]
    exact hlength hread (by omega)
  · exact fits_of_decodeList hfits hdecode (by omega) h
  · rw [bind_eq_ok] at h
    obtain ⟨⟨length, start⟩, hread, h⟩ := h
    rw [raiseIf_bind_eq_ok] at h
    exact fits_of_decodeList hfits hdecode (hlength hread (by omega)) h.2

omit hfits hdecode in
theorem fits_of_decodeRlpLevels (data : Bytes) (levels : Nat) :
    ∀ offset value next, decodeRlpLevels data levels offset = .ok (value, next) →
      Fits levels value := by
  induction levels with
  | zero =>
    intro offset value next h
    rw [decodeRlpLevels, raiseIf_bind_eq_ok] at h
    exact absurd h.2 (by simp)
  | succ levels ih =>
    intro offset value next h
    rw [decodeRlpLevels, raiseIf_bind_eq_ok] at h
    exact fits_of_decodeItem ih (readsCanonical_decodeRlpLevels data levels) h.2

omit hfits hdecode in
/-- The reader accepts exactly the canonical encodings of the values that it can hold, wherever
they stand. -/
theorem decodeRlp_eq_ok_iff {level : Nat} :
    decodeRlp data offset level = .ok (value, next) ↔ Fits (maxRlpDepth + 1 - level) value ∧
      slice data offset next = encodeRlp value ∧ next = offset + (encodeRlp value).length := by
  rw [decodeRlp]
  constructor
  · intro h
    obtain ⟨hprogress, hbound, hslice⟩ := readsCanonical_decodeRlpLevels _ _ _ _ _ h
    refine ⟨fits_of_decodeRlpLevels _ _ _ _ _ h, hslice, ?_⟩
    rw [← hslice, length_slice hbound]
    omega
  · rintro ⟨hvalue, hslice, rfl⟩
    rw [slice, Nat.add_sub_cancel_left] at hslice
    have hsplit : data = data.take offset ++ encodeRlp value ++
        (data.drop offset).drop (encodeRlp value).length := by
      nth_rewrite 1 [← hslice]
      rw [List.append_assoc, List.take_append_drop, List.take_append_drop]
    have hplace : (data.take offset).length = offset := by
      have hsize := congrArg List.length hslice
      have hpos := List.length_pos_iff.mpr (encodeRlp_ne_nil value)
      rw [List.length_take, List.length_drop] at hsize
      rw [List.length_take]
      omega
    have hread := readsBack_decodeRlpLevels data _ value hvalue _ _ hsplit
    rw [hplace] at hread
    exact hread

end AegisLedger.Gateway.RlpCodec
