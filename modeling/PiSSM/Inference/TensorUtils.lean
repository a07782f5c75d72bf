import PiSSM.Exceptions
import PiSSM.Lib.Dict
import PiSSM.Lib.RowMajor

/-!
How tensors travel between processes: the raw bytes of their elements in
row-major order, the shape as a list of integers and the dtype by its name.
Only the dtypes with a numpy counterpart in `DTYPE_MAP` are modelled, and an
element is the string of its bytes.
-/

namespace PiSSM.Inference

open PiSSM.Lib PiSSM.Lib.RowMajor

inductive DType where
  | float32
  | float16
  | int64
  | int32
  deriving DecidableEq

namespace DType

/-- `np.dtype(np_dtype).itemsize`. -/
def itemSize : DType → Nat
  | float32 => 4
  | float16 => 2
  | int64 => 8
  | int32 => 4

/-- `str(tensor.dtype)`. -/
def str : DType → String
  | float32 => "torch.float32"
  | float16 => "torch.float16"
  | int64 => "torch.int64"
  | int32 => "torch.int32"

theorem itemSize_pos (dtype : DType) : 0 < dtype.itemSize := by
  cases dtype <;> decide

end DType

/-- `DTYPE_MAP`, in the order of its keys. -/
def dtypeMap : List (String × DType) :=
  [("torch.float32", .float32), ("torch.float16", .float16), ("torch.int64", .int64),
    ("torch.int32", .int32)]

theorem dtypeMap_str (dtype : DType) : dtypeMap.lookup dtype.str = some dtype := by
  cases dtype <;> rfl

theorem str_of_lookup {dtypeStr : String} {dtype : DType}
    (hlookup : dtypeMap.lookup dtypeStr = some dtype) : dtype.str = dtypeStr := by
  have hmem := mem_of_lookup dtypeStr dtype dtypeMap hlookup
  simp only [dtypeMap, List.mem_cons, Prod.mk.injEq, List.not_mem_nil, or_false] at hmem
  rcases hmem with ⟨rfl, rfl⟩ | ⟨rfl, rfl⟩ | ⟨rfl, rfl⟩ | ⟨rfl, rfl⟩ <;> rfl

/-- A tensor of one of these dtypes: a strided view of its storage. -/
structure Tensor where
  dtype : DType
  view : View (Vector UInt8 dtype.itemSize)

namespace Tensor

def shape (tensor : Tensor) : List Nat := tensor.view.shape

/-- The bytes of the element at a multi-index. -/
def item? (tensor : Tensor) (index : List Nat) : Option (List UInt8) :=
  (tensor.view.at? index).map Vector.toList

/-- `tensor.contiguous()`: a row-major copy, unless the strides already are
those of one. An axis of one entry has any stride. -/
def contiguous (tensor : Tensor) : Tensor :=
  if tensor.view.shape.prod = 0 ∨
      ∀ axis ∈ tensor.view.shape.zip (tensor.view.strides.zip (rowStrides tensor.view.shape)),
        axis.1 = 1 ∨ axis.2.1 = axis.2.2 then
    tensor
  else
    ⟨tensor.dtype, tensor.view.copy⟩

/-- `array.tobytes()`, which reads the array in row-major order. -/
def tobytes (tensor : Tensor) : List UInt8 := tensor.view.elements.flatMap Vector.toList

theorem contiguous_tobytes (tensor : Tensor) : tensor.contiguous.tobytes = tensor.tobytes := by
  unfold contiguous
  split
  · rfl
  · simp only [tobytes, View.copy_elements]

theorem length_tobytes (tensor : Tensor) :
    tensor.tobytes.length = tensor.shape.prod * tensor.dtype.itemSize := by
  rw [tobytes, length_flatMap_toList, View.length_elements, shape]

end Tensor

/-- `NPY_MAXDIMS`. -/
def maxDims : Nat := 64

/-- The bytes numpy counts for an array, in which an axis without entries is left out. -/
def arrayBytes (dims : List Nat) (dtype : DType) : Nat :=
  (dims.filter (· ≠ 0)).prod * dtype.itemSize

/-- The limits within which numpy makes an array. -/
def checkArray (dims : List Nat) (dtype : DType) : Except PyException Unit :=
  if maxDims < dims.length then
    .error (.valueError s!"number of dimensions must be within [0, {maxDims}]")
  else if 2 ^ 63 ≤ arrayBytes dims dtype then
    .error (.valueError ("array is too big; `arr.size * arr.dtype.itemsize` is larger than " ++
      "the maximum possible size."))
  else
    .ok ()

theorem checkArray_ok_iff {dims : List Nat} {dtype : DType} :
    checkArray dims dtype = .ok () ↔ dims.length ≤ maxDims ∧ arrayBytes dims dtype < 2 ^ 63 := by
  unfold checkArray
  split_ifs with hrank hbytes
  · exact iff_of_false nofun fun h => by omega
  · exact iff_of_false nofun fun h => by omega
  · exact iff_of_true rfl ⟨by omega, by omega⟩

theorem checkArray_error {dims : List Nat} {dtype : DType} {err : PyException}
    (herror : checkArray dims dtype = .error err) : ∃ message, err = .valueError message := by
  unfold checkArray at herror
  split_ifs at herror <;> cases herror <;> exact ⟨_, rfl⟩

/-- The elements of an array that has any take no more than the bytes counted for it. -/
theorem prod_le_arrayBytes (dims : List Nat) (dtype : DType) :
    dims.prod * dtype.itemSize ≤ arrayBytes dims dtype := by
  apply Nat.mul_le_mul_right
  by_cases hzero : 0 ∈ dims
  · rw [List.prod_eq_zero hzero]
    exact Nat.zero_le _
  · have hall : dims.filter (· ≠ 0) = dims := by
      rw [List.filter_eq_self]
      intro dim hmem
      have hne : dim ≠ 0 := ne_of_mem_of_not_mem hmem hzero
      exact decide_eq_true hne
    rw [hall]

/-- `numpy()` makes an array of the tensor's shape. -/
def serializeTensor (tensor : Tensor) : Except PyException (List UInt8 × List Int × String) := do
  checkArray tensor.shape tensor.dtype
  return (tensor.contiguous.tobytes, tensor.shape.map Int.ofNat, tensor.dtype.str)

theorem serializeTensor_ok_iff {tensor : Tensor} {sent : List UInt8 × List Int × String} :
    serializeTensor tensor = .ok sent ↔
      (tensor.shape.length ≤ maxDims ∧ arrayBytes tensor.shape tensor.dtype < 2 ^ 63) ∧
        sent = (tensor.tobytes, tensor.shape.map Int.ofNat, tensor.dtype.str) := by
  unfold serializeTensor
  rw [← checkArray_ok_iff, tensor.contiguous_tobytes]
  cases checkArray tensor.shape tensor.dtype with
  | error err => exact iff_of_false nofun fun h => nomatch h.1
  | ok _ =>
      constructor
      · intro hsent
        exact ⟨rfl, (Except.ok.inj hsent).symm⟩
      · rintro ⟨_, rfl⟩
        rfl

/-- `int(np.prod(shape))` of 64-bit integers, which wraps around. The empty
product is one. -/
def npProd (shape : List Int) : Int := shape.prod.bmod (2 ^ 64)

/-- `np.frombuffer`, one element for each `itemsize` bytes. -/
def frombuffer (data : List UInt8) (dtype : DType) :
    Except PyException (List (Vector UInt8 dtype.itemSize)) :=
  if hsize : data.length % dtype.itemSize = 0 then
    .ok (records (data.length / dtype.itemSize) data
      (Nat.div_mul_cancel (Nat.dvd_of_mod_eq_zero hsize)).symm)
  else
    .error (.valueError "buffer size must be a multiple of element size")

/-- The product of the entries that are not negative. -/
def knownSize (shape : List Int) : Nat := ((shape.filter (0 ≤ ·)).map Int.toNat).prod

/-- The number of entries that stand for an unknown dimension. -/
def unknownCount (shape : List Int) : Nat := shape.countP (· < 0)

def fillUnknown (value : Nat) (shape : List Int) : List Nat :=
  shape.map fun entry => if entry < 0 then value else entry.toNat

theorem knownSize_cons_neg {entry : Int} {rest : List Int} (hnegative : entry < 0) :
    knownSize (entry :: rest) = knownSize rest := by
  have hfilter : ¬ 0 ≤ entry := by omega
  rw [knownSize, List.filter_cons_of_neg (by simpa using hfilter), knownSize]

theorem knownSize_cons_nonneg {entry : Int} {rest : List Int} (hnonneg : 0 ≤ entry) :
    knownSize (entry :: rest) = entry.toNat * knownSize rest := by
  rw [knownSize, List.filter_cons_of_pos (by simpa using hnonneg), List.map_cons, List.prod_cons,
    knownSize]

theorem unknownCount_cons_neg {entry : Int} {rest : List Int} (hnegative : entry < 0) :
    unknownCount (entry :: rest) = unknownCount rest + 1 :=
  List.countP_cons_of_pos (by simpa using hnegative)

theorem unknownCount_cons_nonneg {entry : Int} {rest : List Int} (hnonneg : 0 ≤ entry) :
    unknownCount (entry :: rest) = unknownCount rest :=
  List.countP_cons_of_neg (by simpa using hnonneg)

theorem prod_fillUnknown (value : Nat) (shape : List Int) :
    (fillUnknown value shape).prod = value ^ unknownCount shape * knownSize shape := by
  unfold fillUnknown
  induction shape with
  | nil => rfl
  | cons entry rest ih =>
      rw [List.map_cons, List.prod_cons, ih]
      split
      case isTrue hnegative =>
        rw [unknownCount_cons_neg hnegative, knownSize_cons_neg hnegative]
        ring
      case isFalse hnegative =>
        rw [unknownCount_cons_nonneg (by omega), knownSize_cons_nonneg (by omega)]
        ring

/-- How numpy prints a shape that does not fit. Unknown dimensions in front
are left out. -/
def shapeText (shape : List Int) : String :=
  let entries := (shape.dropWhile (· < 0)).map fun entry =>
    if entry < 0 then "newaxis" else toString entry
  let body := ",".intercalate entries
  if shape.length = 1 ∧ entries.length = 1 then s!"({body},)" else s!"({body})"

def sizeMismatch (size : Nat) (shape : List Int) : PyException :=
  .valueError s!"cannot reshape array of size {size} into shape {shapeText shape}"

/-- The loop of `_fix_unknown_dimension` over the new shape: whether an entry is negative,
and the product of the others. -/
def scanShape (mismatch : PyException) : List Int → Bool → Nat → Except PyException (Bool × Nat)
  | [], unknown, known => .ok (unknown, known)
  | entry :: rest, unknown, known =>
      if entry < 0 then
        if unknown then .error (.valueError "can only specify one unknown dimension")
        else scanShape mismatch rest true known
      else if 2 ^ 63 ≤ known * entry.toNat then .error mismatch
      else scanShape mismatch rest unknown (known * entry.toNat)

theorem scanShape_error {mismatch err : PyException} {shape : List Int} {unknown : Bool}
    {known : Nat} (hmismatch : ∃ message, mismatch = .valueError message)
    (herror : scanShape mismatch shape unknown known = .error err) :
    ∃ message, err = .valueError message := by
  induction shape generalizing unknown known with
  | nil => cases herror
  | cons entry rest ih =>
      unfold scanShape at herror
      split_ifs at herror
      · exact ⟨_, (Except.error.inj herror).symm⟩
      · exact ih herror
      · exact Except.error.inj herror ▸ hmismatch
      · exact ih herror

theorem scanShape_ok {mismatch : PyException} {shape : List Int} {unknown found : Bool}
    {known size : Nat} (hok : scanShape mismatch shape unknown known = .ok (found, size)) :
    size = known * knownSize shape ∧ found.toNat = unknown.toNat + unknownCount shape := by
  induction shape generalizing unknown known with
  | nil =>
      obtain ⟨rfl, rfl⟩ := Prod.mk.inj (Except.ok.inj hok)
      exact ⟨(Nat.mul_one _).symm, rfl⟩
  | cons entry rest ih =>
      unfold scanShape at hok
      split_ifs at hok with hnegative hunknown
      · obtain ⟨hsize, hfound⟩ := ih hok
        rw [Bool.not_eq_true] at hunknown
        rw [knownSize_cons_neg hnegative, unknownCount_cons_neg hnegative, hfound, hunknown]
        exact ⟨hsize, by rw [Bool.toNat_true, Bool.toNat_false]; omega⟩
      · obtain ⟨hsize, hfound⟩ := ih hok
        rw [knownSize_cons_nonneg (by omega), unknownCount_cons_nonneg (by omega), ← mul_assoc]
        exact ⟨hsize, hfound⟩

/-- The product of the positive entries. -/
def positiveSize (shape : List Int) : Nat := ((shape.filter (0 < ·)).map Int.toNat).prod

theorem positiveSize_pos (shape : List Int) : 0 < positiveSize shape := by
  apply List.prod_pos
  intro size hmem
  obtain ⟨entry, hentry, rfl⟩ := List.mem_map.mp hmem
  have hpositive := of_decide_eq_true (List.mem_filter.mp hentry).2
  omega

theorem positiveSize_cons {entry : Int} {rest : List Int} :
    positiveSize (entry :: rest) =
      (if 0 < entry then entry.toNat else 1) * positiveSize rest := by
  unfold positiveSize
  split_ifs with hpositive
  · rw [List.filter_cons_of_pos (by simpa using hpositive), List.map_cons, List.prod_cons]
  · rw [List.filter_cons_of_neg (by simpa using hpositive), one_mul]

/-- A shape whose positive entries do not overflow is scanned to its end. -/
theorem scanShape_total {mismatch : PyException} {shape : List Int} {unknown : Bool} {known : Nat}
    (hunknown : unknown.toNat + unknownCount shape ≤ 1)
    (hsize : known * positiveSize shape < 2 ^ 63) :
    ∃ result, scanShape mismatch shape unknown known = .ok result := by
  induction shape generalizing unknown known with
  | nil => exact ⟨_, rfl⟩
  | cons entry rest ih =>
      rw [positiveSize_cons, ← mul_assoc] at hsize
      unfold scanShape
      by_cases hnegative : entry < 0
      · rw [unknownCount_cons_neg hnegative] at hunknown
        have hfirst : unknown = false := by
          cases unknown with
          | false => rfl
          | true => simp at hunknown
        rw [if_neg (by omega), mul_one] at hsize
        rw [if_pos hnegative, hfirst]
        exact ih (by rw [Bool.toNat_true]; omega) hsize
      · rw [unknownCount_cons_nonneg (by omega)] at hunknown
        have hnext : known * entry.toNat * positiveSize rest < 2 ^ 63 := by
          split_ifs at hsize with hpositive
          · exact hsize
          · have hzero : entry.toNat = 0 := by omega
            rw [hzero, mul_zero, zero_mul]
            exact Nat.two_pow_pos 63
        have hle := Nat.le_mul_of_pos_right (known * entry.toNat) (positiveSize_pos rest)
        rw [if_neg hnegative, if_neg (by omega)]
        exact ih hunknown hnext

/-- The dimensions `reshape` gives an array of `size` elements. A single
negative entry is the unknown dimension. -/
def fixUnknownDimension (size : Nat) (shape : List Int) :
    Except PyException { dims : List Nat // dims.prod = size } :=
  match hscan : scanShape (sizeMismatch size shape) shape false 1 with
  | .error err => .error err
  | .ok (true, known) =>
      if hfits : known ≠ 0 ∧ size % known = 0 then
        .ok ⟨fillUnknown (size / known) shape, by
          obtain ⟨hknown, hone⟩ := scanShape_ok hscan
          rw [one_mul] at hknown
          rw [prod_fillUnknown, ← hknown, show unknownCount shape = 1 by simpa using hone.symm,
            pow_one]
          exact Nat.div_mul_cancel (Nat.dvd_of_mod_eq_zero hfits.2)⟩
      else
        .error (sizeMismatch size shape)
  | .ok (false, known) =>
      if hsize : size = known then
        -- No entry is unknown, so none takes the value given here.
        .ok ⟨fillUnknown 0 shape, by
          obtain ⟨hknown, hnone⟩ := scanShape_ok hscan
          rw [prod_fillUnknown, show unknownCount shape = 0 by simpa using hnone.symm, pow_zero,
            hsize, hknown]⟩
      else
        .error (sizeMismatch size shape)

theorem fixUnknownDimension_error {size : Nat} {shape : List Int} {err : PyException}
    (herror : fixUnknownDimension size shape = .error err) :
    ∃ message, err = .valueError message := by
  unfold fixUnknownDimension at herror
  split at herror
  · next found hscan =>
      obtain rfl := Except.error.inj herror
      exact scanShape_error ⟨_, rfl⟩ hscan
  · split_ifs at herror
    exact ⟨_, (Except.error.inj herror).symm⟩
  · split_ifs at herror
    exact ⟨_, (Except.error.inj herror).symm⟩

/-- The dimensions of the array that `reshape` makes. -/
def reshapeDims (dtype : DType) (size : Nat) (shape : List Int) :
    Except PyException { dims : List Nat // dims.prod = size } := do
  if maxDims < shape.length then
    throw (.valueError (s!"maximum supported dimension for an ndarray is currently {maxDims}, " ++
      s!"found {shape.length}"))
  let dims ← fixUnknownDimension size shape
  checkArray dims.1 dtype
  return dims

def reshape {α : Type*} (dtype : DType) (items : List α) (shape : List Int) :
    Except PyException (View α) :=
  (reshapeDims dtype items.length shape).map fun dims => .ofElements dims.1 items dims.2.symm

def unsupportedDtype (dtypeStr : String) : PyException :=
  let supported := dtypeMap.map fun entry => s!"'{entry.1}'"
  .valueError s!"Unsupported dtype: '{dtypeStr}'. Must be one of {supported}"

def deserializeTensor (data : List UInt8) (shape : List Int) (dtypeStr : String) :
    Except PyException Tensor :=
  match dtypeMap.lookup dtypeStr with
  | none => .error (unsupportedDtype dtypeStr)
  | some dtype =>
      let expectedSize := npProd shape * dtype.itemSize
      if (data.length : Int) ≠ expectedSize then
        .error (.valueError (s!"Data size {data.length} does not match shape {shape} " ++
          s!"with dtype {dtypeStr} (expected {expectedSize} bytes)"))
      else do
        let array ← frombuffer data dtype
        let array ← reshape dtype array shape
        return ⟨dtype, array.copy⟩

/-- The dimensions filled in: the entries themselves when none is negative, else the entries
with the only negative one replaced. -/
inductive Filled (size : Nat) (shape : List Int) (dims : List Nat) : Prop where
  | whole (none_unknown : unknownCount shape = 0) (size_eq : size = knownSize shape)
      (dims_eq : dims = fillUnknown 0 shape)
  | inferred (one_unknown : unknownCount shape = 1) (known_ne : knownSize shape ≠ 0)
      (divides : size % knownSize shape = 0)
      (dims_eq : dims = fillUnknown (size / knownSize shape) shape)

/-- A zero entry, whether it is there or filled in, adds nothing to the bytes. -/
theorem arrayBytes_fillUnknown (value : Nat) (shape : List Int) (dtype : DType) :
    arrayBytes (fillUnknown value shape) dtype =
      (if value = 0 then 1 else value) ^ unknownCount shape * positiveSize shape *
        dtype.itemSize := by
  unfold arrayBytes fillUnknown
  congr 1
  induction shape with
  | nil => rfl
  | cons entry rest ih =>
      rw [List.map_cons, List.filter_cons, positiveSize_cons]
      by_cases hnegative : entry < 0
      · have hentry : ¬ 0 < entry := by omega
        rw [if_pos hnegative, unknownCount_cons_neg hnegative, if_neg hentry, one_mul]
        by_cases hvalue : value = 0
        · simp only [hvalue, ne_eq, not_true, decide_false, Bool.false_eq_true, if_false,
            if_true, one_pow, one_mul] at ih ⊢
          exact ih
        · simp only [hvalue, ne_eq, not_false_eq_true, decide_true, if_true, if_false,
            List.prod_cons] at ih ⊢
          rw [ih]
          ring
      · rw [if_neg hnegative, unknownCount_cons_nonneg (by omega)]
        by_cases hzero : entry = 0
        · simp only [hzero, Int.toNat_zero, ne_eq, not_true, decide_false, Bool.false_eq_true,
            if_false, lt_self_iff_false, one_mul]
          exact ih
        · have hpositive : 0 < entry := by omega
          have hne : entry.toNat ≠ 0 := by omega
          simp only [hne, ne_eq, not_false_eq_true, decide_true, if_true, List.prod_cons,
            hpositive]
          rw [ih]
          ring

theorem Filled.positive_lt {size : Nat} {shape : List Int} {dims : List Nat} {dtype : DType}
    (hfilled : Filled size shape dims) (hbytes : arrayBytes dims dtype < 2 ^ 63) :
    positiveSize shape < 2 ^ 63 := by
  have hfill : ∃ value, dims = fillUnknown value shape := by
    cases hfilled with
    | whole _ _ hdims => exact ⟨_, hdims⟩
    | inferred _ _ _ hdims => exact ⟨_, hdims⟩
  obtain ⟨value, rfl⟩ := hfill
  rw [arrayBytes_fillUnknown, mul_assoc] at hbytes
  have hvalue : 0 < (if value = 0 then 1 else value) ^ unknownCount shape := by
    apply Nat.pow_pos
    split <;> omega
  calc positiveSize shape
      ≤ positiveSize shape * dtype.itemSize := Nat.le_mul_of_pos_right _ dtype.itemSize_pos
    _ ≤ _ := Nat.le_mul_of_pos_left _ hvalue
    _ < 2 ^ 63 := hbytes

theorem fixUnknownDimension_filled {size : Nat} {shape : List Int}
    {dims : { dims : List Nat // dims.prod = size }}
    (hfix : fixUnknownDimension size shape = .ok dims) : Filled size shape dims.1 := by
  unfold fixUnknownDimension at hfix
  split at hfix
  · cases hfix
  · next known hscan =>
      obtain ⟨hknown, hone⟩ := scanShape_ok hscan
      rw [one_mul] at hknown
      subst hknown
      split_ifs at hfix with hfits
      obtain rfl := Except.ok.inj hfix
      exact .inferred (by simpa using hone.symm) hfits.1 hfits.2 rfl
  · next known hscan =>
      obtain ⟨hknown, hnone⟩ := scanShape_ok hscan
      rw [one_mul] at hknown
      subst hknown
      split_ifs at hfix with hsize
      obtain rfl := Except.ok.inj hfix
      exact .whole (by simpa using hnone.symm) hsize rfl

/-- Dimensions that fill the shape are found, unless the shape overflows. -/
theorem fixUnknownDimension_of_filled {size : Nat} {shape : List Int}
    {dims : { dims : List Nat // dims.prod = size }} (hfilled : Filled size shape dims.1)
    (hsize : positiveSize shape < 2 ^ 63) : fixUnknownDimension size shape = .ok dims := by
  have hunknown : unknownCount shape ≤ 1 := by
    cases hfilled with
    | whole hnone _ _ => omega
    | inferred hone _ _ _ => omega
  obtain ⟨result, hresult⟩ := @scanShape_total (sizeMismatch size shape) shape false 1
    (by rw [Bool.toNat_false]; omega) (by rw [one_mul]; exact hsize)
  unfold fixUnknownDimension
  split
  · next err hscan => exact absurd (hscan.symm.trans hresult) nofun
  · next known hscan =>
      obtain ⟨hknown, hone⟩ := scanShape_ok hscan
      rw [one_mul] at hknown
      subst hknown
      cases hfilled with
      | whole hnone _ _ => simp [hnone] at hone
      | inferred _ hne hdivides hdims =>
          rw [dif_pos ⟨hne, hdivides⟩]
          exact congrArg Except.ok (Subtype.ext hdims.symm)
  · next known hscan =>
      obtain ⟨hknown, hnone⟩ := scanShape_ok hscan
      rw [one_mul] at hknown
      subst hknown
      cases hfilled with
      | whole _ heq hdims =>
          rw [dif_pos heq]
          exact congrArg Except.ok (Subtype.ext hdims.symm)
      | inferred hone _ _ _ => simp [hone] at hnone

/-- What `reshape` accepts. -/
theorem reshapeDims_ok_iff {dtype : DType} {size : Nat} {shape : List Int}
    {dims : { dims : List Nat // dims.prod = size }} :
    reshapeDims dtype size shape = .ok dims ↔
      Filled size shape dims.1 ∧ shape.length ≤ maxDims ∧ arrayBytes dims.1 dtype < 2 ^ 63 := by
  have hlength (hfilled : Filled size shape dims.1) : dims.1.length = shape.length := by
    cases hfilled with
    | whole _ _ hdims => rw [hdims, fillUnknown, List.length_map]
    | inferred _ _ _ hdims => rw [hdims, fillUnknown, List.length_map]
  unfold reshapeDims
  by_cases hrank : maxDims < shape.length
  · rw [if_pos hrank]
    exact iff_of_false nofun fun h => by omega
  · rw [if_neg hrank]
    constructor
    · intro hok
      cases hfix : fixUnknownDimension size shape with
      | error err =>
          rw [hfix] at hok
          cases hok
      | ok found =>
          rw [hfix] at hok
          cases hcheck : checkArray found.1 dtype with
          | error err =>
              simp only [bind, Except.bind, hcheck] at hok
              cases hok
          | ok _ =>
              simp only [bind, Except.bind, pure, Except.pure, hcheck, Except.ok.injEq] at hok
              subst hok
              exact ⟨fixUnknownDimension_filled hfix, by omega, (checkArray_ok_iff.mp hcheck).2⟩
    · rintro ⟨hfilled, _, hbytes⟩
      have hcheck : checkArray dims.1 dtype = .ok () :=
        checkArray_ok_iff.mpr ⟨by rw [hlength hfilled]; omega, hbytes⟩
      rw [fixUnknownDimension_of_filled hfilled (hfilled.positive_lt hbytes)]
      simp only [bind, Except.bind, pure, Except.pure, hcheck]

theorem reshapeDims_error {dtype : DType} {size : Nat} {shape : List Int} {err : PyException}
    (herror : reshapeDims dtype size shape = .error err) :
    ∃ message, err = .valueError message := by
  unfold reshapeDims at herror
  by_cases hrank : maxDims < shape.length
  · rw [if_pos hrank] at herror
    exact ⟨_, (Except.error.inj herror).symm⟩
  · rw [if_neg hrank] at herror
    cases hfix : fixUnknownDimension size shape with
    | error found =>
        rw [hfix] at herror
        obtain rfl := Except.error.inj herror
        exact fixUnknownDimension_error hfix
    | ok dims =>
        rw [hfix] at herror
        cases hcheck : checkArray dims.1 dtype with
        | error found =>
            simp only [bind, Except.bind, hcheck, Except.error.injEq] at herror
            subst herror
            exact checkArray_error hcheck
        | ok _ =>
            simp only [bind, Except.bind, pure, Except.pure, hcheck] at herror
            cases herror

/-- A payload of the expected size is cut into its elements, and what is left is to find
the dimensions. -/
theorem deserializeTensor_rows {data : List UInt8} {shape : List Int} {dtypeStr : String}
    {dtype : DType} (hlookup : dtypeMap.lookup dtypeStr = some dtype)
    (hsize : (data.length : Int) = npProd shape * dtype.itemSize) :
    ∃ rows : List (Vector UInt8 dtype.itemSize), rows.flatMap Vector.toList = data ∧
      deserializeTensor data shape dtypeStr =
        (reshapeDims dtype rows.length shape).map fun dims =>
          ⟨dtype, (View.ofElements dims.1 rows dims.2.symm).copy⟩ := by
  have hdvd : dtype.itemSize ∣ data.length := by
    have hmul : (dtype.itemSize : Int) ∣ data.length := ⟨npProd shape, by rw [hsize, mul_comm]⟩
    exact Int.natCast_dvd_natCast.mp hmul
  have hlength := (Nat.div_mul_cancel hdvd).symm
  have hrows : frombuffer data dtype =
      .ok (records (data.length / dtype.itemSize) data hlength) :=
    dif_pos (Nat.mod_eq_zero_of_dvd hdvd)
  refine ⟨_, flatMap_records hlength, ?_⟩
  simp only [deserializeTensor, hlookup, hsize, ne_eq, not_true, if_false, hrows, reshape,
    bind, Except.bind]
  cases reshapeDims dtype (records (data.length / dtype.itemSize) data hlength).length shape <;>
    rfl

end PiSSM.Inference
