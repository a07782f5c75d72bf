import PiSSM.Inference.TensorUtils

/-!
What the other side makes of a serialised tensor. A view of any shape and strides that
numpy has room for comes back with its shape, its dtype and its elements. Payloads that no
tensor serialises to are refused, apart from shapes with one negative entry whose wrapped
product happens to match the payload: `reshape` takes the entry for an unknown dimension
and fills it in.
-/

namespace PiSSM.Pipeline

open PiSSM.Lib PiSSM.Lib.RowMajor PiSSM.Inference

theorem unknownCount_eq_zero {shape : List Int} :
    unknownCount shape = 0 ↔ ∀ entry ∈ shape, 0 ≤ entry := by
  simp only [unknownCount, List.countP_eq_zero, decide_eq_true_eq, not_lt]

theorem fillUnknown_eq {shape : List Int} (value : Nat) (hnone : unknownCount shape = 0) :
    (fillUnknown value shape).map Int.ofNat = shape := by
  rw [fillUnknown, List.map_map]
  conv_rhs => rw [← List.map_id shape]
  apply List.map_congr_left
  intro entry hmem
  have hentry := unknownCount_eq_zero.mp hnone entry hmem
  rw [Function.comp_apply, if_neg (by omega)]
  exact Int.toNat_of_nonneg hentry

theorem fillUnknown_ne {shape : List Int} (value : Nat) (hsome : unknownCount shape ≠ 0) :
    (fillUnknown value shape).map Int.ofNat ≠ shape := by
  intro heq
  apply hsome
  rw [unknownCount_eq_zero, ← heq]
  intro entry hmem
  obtain ⟨dim, _, rfl⟩ := List.mem_map.mp hmem
  exact Int.natCast_nonneg dim

theorem prod_ofNat (dims : List Nat) : (dims.map Int.ofNat).prod = (dims.prod : Int) := by
  induction dims with
  | nil => rfl
  | cons dim rest ih =>
      rw [List.map_cons, List.prod_cons, ih, List.prod_cons, Nat.cast_mul]
      rfl

theorem unknownCount_ofNat (dims : List Nat) : unknownCount (dims.map Int.ofNat) = 0 := by
  rw [unknownCount_eq_zero]
  intro entry hmem
  obtain ⟨dim, _, rfl⟩ := List.mem_map.mp hmem
  exact Int.natCast_nonneg dim

theorem fillUnknown_ofNat (value : Nat) (dims : List Nat) :
    fillUnknown value (dims.map Int.ofNat) = dims :=
  List.map_injective_iff.mpr Int.ofNat_injective
    (fillUnknown_eq value (unknownCount_ofNat dims))

/-- Without an unknown dimension the known size is the size. -/
theorem prod_eq_knownSize {shape : List Int} (hnone : unknownCount shape = 0) :
    shape.prod = knownSize shape := by
  have hfill := fillUnknown_eq 0 hnone
  have hprod := prod_fillUnknown 0 shape
  rw [hnone, pow_zero, one_mul] at hprod
  rw [← hfill, prod_ofNat, hprod, hfill]

theorem npProd_of_lt {shape : List Int} (hnonneg : 0 ≤ shape.prod)
    (hlt : shape.prod < 2 ^ 63) : npProd shape = shape.prod := by
  rw [npProd, Int.bmod_eq_of_le] <;> omega

/-- Tensors of one dtype and shape with the same bytes agree at every multi-index. -/
theorem item?_congr {left right : Tensor} (hdtype : left.dtype = right.dtype)
    (hshape : left.shape = right.shape) (hbytes : left.tobytes = right.tobytes)
    (index : List Nat) : left.item? index = right.item? index := by
  obtain ⟨dtype, left⟩ := left
  obtain ⟨_, right⟩ := right
  obtain rfl : dtype = _ := hdtype
  have hlengths : left.elements.length = right.elements.length := by
    rw [left.length_elements, right.length_elements]
    exact congrArg List.prod hshape
  have helements : left.elements = right.elements := flatMap_toList_inj hlengths hbytes
  simp only [Tensor.item?, View.at?_congr hshape helements]

/-- A payload of the right size for a shape without negative entries is accepted. -/
theorem deserializeTensor_whole {data : List UInt8} {dims : List Nat} {dtype : DType}
    (hsize : data.length = dims.prod * dtype.itemSize) (hrank : dims.length ≤ maxDims)
    (hbytes : arrayBytes dims dtype < 2 ^ 63) :
    ∃ result, deserializeTensor data (dims.map Int.ofNat) dtype.str = .ok result ∧
      result.shape = dims ∧ result.dtype = dtype ∧ result.tobytes = data := by
  have hnone := unknownCount_ofNat dims
  have hprod := prod_ofNat dims
  have hlt : dims.prod < 2 ^ 63 :=
    calc dims.prod
        ≤ dims.prod * dtype.itemSize := Nat.le_mul_of_pos_right _ dtype.itemSize_pos
      _ ≤ arrayBytes dims dtype := prod_le_arrayBytes dims dtype
      _ < 2 ^ 63 := hbytes
  have hknown : knownSize (dims.map Int.ofNat) = dims.prod := by
    have heq := prod_eq_knownSize hnone
    omega
  have hexpected : (data.length : Int) = npProd (dims.map Int.ofNat) * dtype.itemSize := by
    rw [npProd_of_lt (by omega) (by omega), hprod, hsize]
    exact Nat.cast_mul _ _
  obtain ⟨rows, hrows, hdeserialize⟩ := deserializeTensor_rows (dtypeMap_str dtype) hexpected
  have hcount : rows.length = dims.prod := by
    apply Nat.eq_of_mul_eq_mul_right dtype.itemSize_pos
    rw [← hsize, ← length_flatMap_toList, hrows]
  have hreshape : reshapeDims dtype rows.length (dims.map Int.ofNat) =
      .ok ⟨dims, hcount.symm⟩ := by
    refine reshapeDims_ok_iff.mpr ⟨.whole hnone (by omega) (fillUnknown_ofNat 0 dims).symm, ?_,
      hbytes⟩
    rw [List.length_map]
    exact hrank
  rw [hreshape] at hdeserialize
  refine ⟨_, hdeserialize, rfl, rfl, ?_⟩
  simp only [Tensor.tobytes, View.copy_elements, View.ofElements_elements, hrows]

/-- A tensor survives its transport when it has at most as many axes as a numpy array can
have and numpy counts fewer than `2 ^ 63` bytes for it. -/
theorem tensor_round_trip (tensor : Tensor) (hrank : tensor.shape.length ≤ maxDims)
    (hbytes : arrayBytes tensor.shape tensor.dtype < 2 ^ 63) :
    ∃ data shape dtypeStr result,
      serializeTensor tensor = .ok (data, shape, dtypeStr) ∧
      deserializeTensor data shape dtypeStr = .ok result ∧
      result.shape = tensor.shape ∧ result.dtype = tensor.dtype ∧
      ∀ index, result.item? index = tensor.item? index := by
  obtain ⟨result, hresult, hshape, hdtype, hsame⟩ :=
    deserializeTensor_whole tensor.length_tobytes hrank hbytes
  exact ⟨_, _, _, result, serializeTensor_ok_iff.mpr ⟨⟨hrank, hbytes⟩, rfl⟩, hresult, hshape,
    hdtype, item?_congr hdtype hshape hsame⟩

/-- No rows of `2 ^ 62` floats each. -/
def emptyRows : Tensor where
  dtype := .float32
  view := .ofElements [0, 2 ^ 62] [] rfl

/-- One float along 65 axes. -/
def manyAxes : Tensor where
  dtype := .float32
  view := .ofElements (List.replicate 65 1) [#v[0, 0, 128, 63]] (by decide)

/-- Tensors of no byte and of four bytes that `serialize_tensor` raises a `ValueError` for. -/
theorem tensor_round_trip_counterexample :
    (emptyRows.shape.prod * emptyRows.dtype.itemSize < 2 ^ 63 ∧
      serializeTensor emptyRows = .error (.valueError ("array is too big; `arr.size * " ++
        "arr.dtype.itemsize` is larger than the maximum possible size."))) ∧
    manyAxes.shape.prod * manyAxes.dtype.itemSize < 2 ^ 63 ∧
      serializeTensor manyAxes =
        .error (.valueError "number of dimensions must be within [0, 64]") :=
  ⟨⟨by decide, rfl⟩, by decide, rfl⟩

/-- The addresses of two rows read column by column, repeated along an expanded axis. -/
theorem transposed_inBounds (index : List Nat) (hvalid : ValidIndex [2, 3, 2] index) :
    address 0 [1, 0, 2] index < 4 := by
  rcases hvalid with _ | ⟨hfirst, _ | ⟨hsecond, _ | ⟨hthird, _ | _⟩⟩⟩
  simp only [address, List.zipWith_cons_cons, List.zipWith_nil_left, List.sum_cons,
    List.sum_nil]
  omega

/-- The four elements of a storage of two rows, read column by column and repeated along
an expanded axis. -/
def transposed : Tensor where
  dtype := .float16
  view :=
    { storage := [#v[0, 60], #v[0, 64], #v[0, 66], #v[0, 68]]
      offset := 0
      shape := [2, 3, 2]
      strides := [1, 0, 2]
      rank_eq := rfl
      inBounds := transposed_inBounds }

/-- A transposed and expanded view. -/
theorem tensor_round_trip_transposed :
    ∃ data result,
      serializeTensor transposed = .ok (data, [2, 3, 2], "torch.float16") ∧
      deserializeTensor data [2, 3, 2] "torch.float16" = .ok result ∧
      result.shape = [2, 3, 2] ∧ result.item? [1, 2, 0] = some [0, 64] := by
  obtain ⟨data, shape, dtypeStr, result, hsent, hresult, hshape, -, hitems⟩ :=
    tensor_round_trip transposed (by decide) (by decide)
  obtain ⟨rfl, rfl⟩ : shape = [2, 3, 2] ∧ dtypeStr = "torch.float16" := by
    have hform := (serializeTensor_ok_iff.mp hsent).2
    exact ⟨congrArg (fun sent => sent.2.1) hform, congrArg (fun sent => sent.2.2) hform⟩
  refine ⟨data, result, hsent, hresult, hshape, ?_⟩
  rw [hitems]
  decide

/-- The decoder raises `ValueError`, or returns the tensor that the payload is the
serialisation of. -/
def Strict (data : List UInt8) (shape : List Int) (dtypeStr : String) : Prop :=
  match deserializeTensor data shape dtypeStr with
  | .error err => ∃ message, err = .valueError message
  | .ok tensor =>
      tensor.shape.map Int.ofNat = shape ∧
      serializeTensor tensor = .ok (data, shape, dtypeStr) ∧
      ∃ dtype, dtypeMap.lookup dtypeStr = some dtype ∧ (∀ entry ∈ shape, 0 ≤ entry) ∧
        (data.length : Int) = shape.prod * dtype.itemSize

/-- One entry is negative, the payload is as long as the product modulo `2 ^ 64` says, the
other entries divide it, and numpy has room for the shape. -/
def Slips (data : List UInt8) (shape : List Int) (dtypeStr : String) : Prop :=
  ∃ dtype, dtypeMap.lookup dtypeStr = some dtype ∧ shape.length ≤ maxDims ∧
    unknownCount shape = 1 ∧ 0 < knownSize shape ∧
    knownSize shape * dtype.itemSize < 2 ^ 63 ∧ data.length < 2 ^ 63 ∧
    knownSize shape * dtype.itemSize ∣ data.length ∧
    (data.length : Int) = shape.prod.bmod (2 ^ 64) * dtype.itemSize

variable {data : List UInt8} {shape : List Int} {dtypeStr : String}

/-- What holds of a payload that is decoded to a tensor. -/
structure Decoded (data : List UInt8) (shape : List Int) (dtypeStr : String)
    (tensor : Tensor) : Prop where
  lookup : dtypeMap.lookup dtypeStr = some tensor.dtype
  size : (data.length : Int) = npProd shape * tensor.dtype.itemSize
  bytes : tensor.tobytes = data
  rank : shape.length ≤ maxDims
  room : arrayBytes tensor.shape tensor.dtype < 2 ^ 63
  filled : Filled tensor.shape.prod shape tensor.shape

theorem deserializeTensor_ok {tensor : Tensor}
    (hok : deserializeTensor data shape dtypeStr = .ok tensor) :
    Decoded data shape dtypeStr tensor := by
  cases hlookup : dtypeMap.lookup dtypeStr with
  | none =>
      simp only [deserializeTensor, hlookup] at hok
      cases hok
  | some dtype =>
      by_cases hsize : (data.length : Int) = npProd shape * dtype.itemSize
      · obtain ⟨rows, hrows, hdeserialize⟩ := deserializeTensor_rows hlookup hsize
        rw [hok] at hdeserialize
        cases hreshape : reshapeDims dtype rows.length shape with
        | error err =>
            rw [hreshape] at hdeserialize
            cases hdeserialize
        | ok dims =>
            rw [hreshape] at hdeserialize
            obtain rfl := Except.ok.inj hdeserialize
            obtain ⟨hfilled, hrank, hbytes⟩ := reshapeDims_ok_iff.mp hreshape
            refine ⟨hlookup, hsize, ?_, hrank, hbytes, ?_⟩
            · simp only [Tensor.tobytes, View.copy_elements, View.ofElements_elements, hrows]
            · change Filled dims.1.prod shape dims.1
              rw [dims.2]
              exact hfilled
      · simp only [deserializeTensor, hlookup, ne_eq, hsize, not_false_eq_true, if_true] at hok
        cases hok

theorem deserializeTensor_error {err : PyException}
    (herror : deserializeTensor data shape dtypeStr = .error err) :
    ∃ message, err = .valueError message := by
  cases hlookup : dtypeMap.lookup dtypeStr with
  | none =>
      simp only [deserializeTensor, hlookup] at herror
      exact ⟨_, (Except.error.inj herror).symm⟩
  | some dtype =>
      by_cases hsize : (data.length : Int) = npProd shape * dtype.itemSize
      · obtain ⟨rows, -, hdeserialize⟩ := deserializeTensor_rows hlookup hsize
        rw [herror] at hdeserialize
        cases hreshape : reshapeDims dtype rows.length shape with
        | error found =>
            rw [hreshape] at hdeserialize
            obtain rfl := Except.error.inj hdeserialize
            exact reshapeDims_error hreshape
        | ok dims =>
            rw [hreshape] at hdeserialize
            cases hdeserialize
      · simp only [deserializeTensor, hlookup, ne_eq, hsize, not_false_eq_true,
          if_true] at herror
        exact ⟨_, (Except.error.inj herror).symm⟩

theorem Decoded.length_eq {tensor : Tensor} (hdecoded : Decoded data shape dtypeStr tensor) :
    data.length = tensor.shape.prod * tensor.dtype.itemSize := by
  rw [← hdecoded.bytes, Tensor.length_tobytes]

/-- Without a negative entry the payload is the serialisation of its tensor. -/
theorem Decoded.exact {tensor : Tensor} (hdecoded : Decoded data shape dtypeStr tensor)
    (hnone : unknownCount shape = 0) (hshape : tensor.shape = fillUnknown 0 shape) :
    tensor.shape.map Int.ofNat = shape ∧
      serializeTensor tensor = .ok (data, shape, dtypeStr) ∧
      (data.length : Int) = shape.prod * tensor.dtype.itemSize := by
  have heq : tensor.shape.map Int.ofNat = shape := by
    rw [hshape, fillUnknown_eq 0 hnone]
  have hrank : tensor.shape.length ≤ maxDims := by
    rw [hshape, fillUnknown, List.length_map]
    exact hdecoded.rank
  refine ⟨heq, serializeTensor_ok_iff.mpr ⟨⟨hrank, hdecoded.room⟩, ?_⟩, ?_⟩
  · rw [hdecoded.bytes, heq, str_of_lookup hdecoded.lookup]
  · rw [← heq, prod_ofNat, hdecoded.length_eq]
    exact Nat.cast_mul _ _

/-- The known entries are positive when their product is. -/
theorem positiveSize_eq_knownSize (hknown : knownSize shape ≠ 0) :
    positiveSize shape = knownSize shape := by
  unfold positiveSize knownSize
  congr 2
  apply List.filter_congr
  intro entry hmem
  have hne : entry ≠ 0 := by
    rintro rfl
    apply hknown
    apply List.prod_eq_zero
    exact List.mem_map.mpr ⟨0, List.mem_filter.mpr ⟨hmem, rfl⟩, rfl⟩
  rw [decide_eq_decide]
  omega

/-- An unknown dimension that is filled in takes the bytes of the payload, or leaves those of
the other entries when the payload is empty. -/
theorem arrayBytes_inferred {value : Nat} {dtype : DType} (hone : unknownCount shape = 1)
    (hknown : knownSize shape ≠ 0) :
    arrayBytes (fillUnknown value shape) dtype =
      if value = 0 then knownSize shape * dtype.itemSize
      else value * knownSize shape * dtype.itemSize := by
  rw [arrayBytes_fillUnknown, hone, pow_one, positiveSize_eq_knownSize hknown]
  split_ifs
  · rw [one_mul]
  · rfl

/-- A payload with one negative entry is decoded to a tensor of another shape. -/
theorem Slips.decoded (hslips : Slips data shape dtypeStr) :
    ∃ tensor, deserializeTensor data shape dtypeStr = .ok tensor ∧
      tensor.shape.map Int.ofNat ≠ shape := by
  obtain ⟨dtype, hlookup, hrank, hone, hpos, hknown, hdata, hdvd, hsize⟩ := hslips
  obtain ⟨rows, hrows, hdeserialize⟩ := deserializeTensor_rows hlookup hsize
  have hlength : data.length = rows.length * dtype.itemSize := by
    rw [← hrows, length_flatMap_toList]
  have hfits : knownSize shape ∣ rows.length := by
    rw [hlength] at hdvd
    exact Nat.dvd_of_mul_dvd_mul_right dtype.itemSize_pos hdvd
  have hprod : (fillUnknown (rows.length / knownSize shape) shape).prod = rows.length := by
    rw [prod_fillUnknown, hone, pow_one]
    exact Nat.div_mul_cancel hfits
  have hroom : arrayBytes (fillUnknown (rows.length / knownSize shape) shape) dtype < 2 ^ 63 := by
    rw [arrayBytes_inferred hone hpos.ne']
    split_ifs
    · exact hknown
    · rw [Nat.div_mul_cancel hfits, ← hlength]
      exact hdata
  have hreshape : reshapeDims dtype rows.length shape =
      .ok ⟨fillUnknown (rows.length / knownSize shape) shape, hprod⟩ :=
    reshapeDims_ok_iff.mpr
      ⟨.inferred hone hpos.ne' (Nat.mod_eq_zero_of_dvd hfits) rfl, hrank, hroom⟩
  rw [hreshape] at hdeserialize
  exact ⟨_, hdeserialize, fillUnknown_ne _ (by omega)⟩

theorem Decoded.slips {tensor : Tensor} (hdecoded : Decoded data shape dtypeStr tensor)
    (hone : unknownCount shape = 1) (hknown : knownSize shape ≠ 0)
    (hmod : tensor.shape.prod % knownSize shape = 0)
    (hshape : tensor.shape = fillUnknown (tensor.shape.prod / knownSize shape) shape) :
    Slips data shape dtypeStr := by
  have hdvd := Nat.dvd_of_mod_eq_zero hmod
  have hroom := hdecoded.room
  have hdata : data.length < 2 ^ 63 :=
    calc data.length
        = tensor.shape.prod * tensor.dtype.itemSize := hdecoded.length_eq
      _ ≤ arrayBytes tensor.shape tensor.dtype := prod_le_arrayBytes _ _
      _ < 2 ^ 63 := hroom
  refine ⟨tensor.dtype, hdecoded.lookup, hdecoded.rank, hone, Nat.pos_of_ne_zero hknown, ?_,
    hdata, ?_, hdecoded.size⟩
  · rw [hshape, arrayBytes_inferred hone hknown] at hroom
    split_ifs at hroom with hzero
    · exact hroom
    · rw [Nat.div_mul_cancel hdvd] at hroom
      have hpos : 0 < tensor.shape.prod :=
        Nat.pos_of_ne_zero fun heq => hzero (by rw [heq, Nat.zero_div])
      exact Nat.lt_of_le_of_lt (Nat.mul_le_mul_right _ (Nat.le_of_dvd hpos hdvd)) hroom
  · rw [hdecoded.length_eq]
    exact Nat.mul_dvd_mul_right hdvd _

/-- The decoder is strict on every payload but those. -/
theorem strict_decoder (data : List UInt8) (shape : List Int64) (dtypeStr : String) :
    Strict data (shape.map Int64.toInt) dtypeStr ↔
      ¬ Slips data (shape.map Int64.toInt) dtypeStr := by
  generalize shape.map Int64.toInt = entries
  constructor
  · intro hstrict hslips
    obtain ⟨tensor, hok, hshape⟩ := hslips.decoded
    simp only [Strict, hok] at hstrict
    exact hshape hstrict.1
  · intro hslips
    unfold Strict
    cases hresult : deserializeTensor data entries dtypeStr with
    | error err => exact deserializeTensor_error hresult
    | ok tensor =>
        have hdecoded := deserializeTensor_ok hresult
        cases hdecoded.filled with
        | whole hnone _ hshape =>
            obtain ⟨heq, hserialize, hlength⟩ := hdecoded.exact hnone hshape
            exact ⟨heq, hserialize, tensor.dtype, hdecoded.lookup,
              unknownCount_eq_zero.mp hnone, hlength⟩
        | inferred hone hknown hmod hshape =>
            exact absurd (hdecoded.slips hone hknown hmod hshape) hslips

/-- Two floats with a shape whose product wraps around to two: the decoder returns a tensor
of one row. -/
theorem strict_decoder_counterexample :
    (deserializeTensor (List.replicate 8 0)
        (([-9223372036854775807, 2] : List Int64).map Int64.toInt) "torch.float32").map
          Tensor.shape = .ok [1, 2] ∧
      ¬ Strict (List.replicate 8 0)
        (([-9223372036854775807, 2] : List Int64).map Int64.toInt) "torch.float32" := by
  have hshape : (deserializeTensor (List.replicate 8 0)
      (([-9223372036854775807, 2] : List Int64).map Int64.toInt) "torch.float32").map
        Tensor.shape = .ok [1, 2] := rfl
  refine ⟨hshape, ?_⟩
  intro hstrict
  unfold Strict at hstrict
  split at hstrict
  · next err hresult =>
      rw [hresult] at hshape
      cases hshape
  · next tensor hresult =>
      rw [hresult] at hshape
      have hdims : tensor.shape = [1, 2] := Except.ok.inj hshape
      rw [hdims] at hstrict
      exact absurd hstrict.1 (by decide)

end PiSSM.Pipeline
