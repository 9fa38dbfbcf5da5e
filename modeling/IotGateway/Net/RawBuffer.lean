import IotGateway.Lib.Run
import IotGateway.Net.Buffer

/-!
# The buffer in memory

`RawBuffer` is `Buffer.h` and `Buffer.cpp` on a plain vector: nothing is known about the
indices, sizes wrap as a `size_t` does, every assertion is checked, and a copy that leaves
the vector or overlaps itself is a fault. As long as the vector does not have to be larger
than one can be, every operation of `Buffer` is an operation of `RawBuffer` without a fault,
and over runs the readable bytes are a queue.
-/

namespace IotGateway.Net
open Text

inductive Fault where
  | assertion
  | outOfBounds
  | overlap
  /-- `std::length_error`. -/
  | length
  deriving DecidableEq, Repr

def require (condition : Prop) [Decidable condition] (fault : Fault) : Except Fault Unit :=
  if condition then .ok () else .error fault

theorem require_true {condition : Prop} [Decidable condition] (fault : Fault) (holds : condition) :
    require condition fault = .ok () := if_pos holds

/-- A sum of `size_t`. -/
def sizeAdd (a b : Nat) : Nat := (a + b) % 2 ^ 64

/-- A difference of `size_t`. -/
def sizeSub (a b : Nat) : Nat := (a + 2 ^ 64 - b) % 2 ^ 64

theorem sizeAdd_of_lt {a b : Nat} (small : a + b < 2 ^ 64) : sizeAdd a b = a + b := Nat.mod_eq_of_lt small

theorem sizeSub_of_le {a b : Nat} (order : b ≤ a) (small : a < 2 ^ 64) : sizeSub a b = a - b := by
  unfold sizeSub
  omega

/-- `max_size()` of a vector of bytes. -/
def kMaxSize : Nat := 2 ^ 63 - 1

/-- `resize()`, also from the empty vector. -/
def resize (memory : Bytes) (size : Nat) : Except Fault Bytes := do
  require (size ≤ kMaxSize) .length
  return memory.take size ++ List.replicate (size - memory.length) 0

theorem resize_of_le {memory : Bytes} {size : Nat} (grows : memory.length ≤ size) (small : size ≤ kMaxSize) :
    resize memory size = .ok (memory ++ List.replicate (size - memory.length) 0) := by
  unfold resize
  rw [require_true _ small, List.take_of_length_le grows]
  rfl

/-- The bytes `[first, last)` of the vector. -/
def load (memory : Bytes) (first last : Nat) : Except Fault Bytes := do
  require (first ≤ last ∧ last ≤ memory.length) .outOfBounds
  return (memory.take last).drop first

/-- `std::copy` from outside the vector to `pos`. -/
def store (memory : Bytes) (pos : Nat) (data : Bytes) : Except Fault Bytes := do
  require (pos + data.length ≤ memory.length) .outOfBounds
  return copyTo memory pos data

theorem store_of_le {memory data : Bytes} {pos : Nat} (room : pos + data.length ≤ memory.length) :
    store memory pos data = .ok (copyTo memory pos data) := by
  unfold store
  rw [require_true _ room]
  rfl

/-- `std::copy` of `[first, last)` to `pos` in the same vector, which is undefined when `pos` is in the range. -/
def move (memory : Bytes) (first last pos : Nat) : Except Fault Bytes := do
  require (pos < first ∨ last ≤ pos) .overlap
  store memory pos (← load memory first last)

structure RawBuffer where
  buffer_ : Bytes
  readerIndex_ : Nat
  writerIndex_ : Nat
  deriving DecidableEq, Repr

namespace RawBuffer

def new (initSize : Nat) : Except Fault RawBuffer := do
  let buffer_ ← resize [] (sizeAdd kCheapPrepend initSize)
  return { buffer_, readerIndex_ := kCheapPrepend, writerIndex_ := kCheapPrepend }

/-- No operation moves `readerIndex_` past `writerIndex_`, so this difference does not wrap. -/
def readableBytes (b : RawBuffer) : Nat := b.writerIndex_ - b.readerIndex_

def writableBytes (b : RawBuffer) : Nat := sizeSub b.buffer_.length b.writerIndex_

def prependableBytes (b : RawBuffer) : Nat := b.readerIndex_

def readable (b : RawBuffer) : Bytes := (b.buffer_.take b.writerIndex_).drop b.readerIndex_

def retrieveAll (b : RawBuffer) : RawBuffer := { b with readerIndex_ := kCheapPrepend, writerIndex_ := kCheapPrepend }

def retrieve (b : RawBuffer) (len : Nat) : Except Fault RawBuffer := do
  require (len ≤ b.readableBytes) .assertion
  return if len < b.readableBytes then { b with readerIndex_ := b.readerIndex_ + len } else b.retrieveAll

def retrieveAllAsString (b : RawBuffer) : Except Fault (Bytes × RawBuffer) := do
  let result ← load b.buffer_ b.readerIndex_ (b.readerIndex_ + b.readableBytes)
  return (result, b.retrieveAll)

/-- `retrieveUntil(end)` with `end` as an index of the vector. -/
def retrieveUntil (b : RawBuffer) (last : Nat) : Except Fault RawBuffer := do
  require (b.readerIndex_ ≤ last) .assertion
  require (last ≤ b.writerIndex_) .assertion
  b.retrieve (last - b.readerIndex_)

def retrieveAsString (b : RawBuffer) (len : Nat) : Except Fault (Bytes × RawBuffer) := do
  require (len ≤ b.readableBytes) .assertion
  let result ← load b.buffer_ b.readerIndex_ (b.readerIndex_ + len)
  return (result, ← b.retrieve len)

def makeSpace (b : RawBuffer) (len : Nat) : Except Fault RawBuffer :=
  if sizeAdd b.writableBytes b.prependableBytes < sizeAdd len kCheapPrepend then do
    let buffer_ ← resize b.buffer_ (sizeAdd b.writerIndex_ len)
    return { b with buffer_ }
  else do
    let buffer_ ← move b.buffer_ b.readerIndex_ b.writerIndex_ kCheapPrepend
    return { buffer_, readerIndex_ := kCheapPrepend, writerIndex_ := sizeAdd kCheapPrepend b.readableBytes }

def ensureWritableBytes (b : RawBuffer) (len : Nat) : Except Fault RawBuffer :=
  if b.writableBytes < len then b.makeSpace len else return b

def hasWritten (b : RawBuffer) (len : Nat) : Except Fault RawBuffer := do
  require (len ≤ b.writableBytes) .assertion
  return { b with writerIndex_ := sizeAdd b.writerIndex_ len }

def append (b : RawBuffer) (data : Bytes) : Except Fault RawBuffer := do
  let b ← b.ensureWritableBytes data.length
  let buffer_ ← store b.buffer_ b.writerIndex_ data
  hasWritten { b with buffer_ } data.length

def prepend (b : RawBuffer) (data : Bytes) : Except Fault RawBuffer := do
  require (data.length ≤ b.prependableBytes) .assertion
  let readerIndex_ := b.readerIndex_ - data.length
  let buffer_ ← store b.buffer_ readerIndex_ data
  return { b with buffer_, readerIndex_ }

def offeredBytes (b : RawBuffer) : Nat :=
  if b.writableBytes < Buffer.kExtraBytes then b.writableBytes + Buffer.kExtraBytes else b.writableBytes

/-- `readFd` when `readv` delivers `received`: first into the free tail, the rest into the stack buffer. -/
def readFd (b : RawBuffer) (received : Bytes) : Except Fault RawBuffer := do
  let writable := b.writableBytes
  let buffer_ ← store b.buffer_ b.writerIndex_ (received.take writable)
  let b := { b with buffer_ }
  if received.length ≤ writable then return { b with writerIndex_ := sizeAdd b.writerIndex_ received.length }
  else append { b with writerIndex_ := b.buffer_.length } (received.drop writable)

/-- When making room for `len` bytes has to grow the vector, a vector of that size can be. -/
def Fits (b : RawBuffer) (len : Nat) : Prop :=
  b.writableBytes < len → b.writableBytes + b.prependableBytes < len + kCheapPrepend → b.writerIndex_ + len ≤ kMaxSize

instance (b : RawBuffer) (len : Nat) : Decidable (b.Fits len) := inferInstanceAs (Decidable (_ → _ → _))

end RawBuffer

/-! ### The invariant keeps every copy inside -/

namespace Buffer

def raw (b : Buffer) : RawBuffer := ⟨b.buffer_, b.readerIndex_, b.writerIndex_⟩

def Small (b : Buffer) : Prop := b.buffer_.length ≤ kMaxSize

section Raw

variable (b : Buffer)

theorem raw_new {initSize : Nat} (small : kCheapPrepend + initSize ≤ kMaxSize) :
    RawBuffer.new initSize = .ok (new initSize).raw ∧ (new initSize).Small := by
  have sum : sizeAdd kCheapPrepend initSize = kCheapPrepend + initSize := by
    apply sizeAdd_of_lt
    unfold kMaxSize at small
    omega
  refine ⟨?_, ?_⟩
  · unfold RawBuffer.new
    rw [sum, resize_of_le (Nat.zero_le _) small]
    rfl
  · show (List.replicate (kCheapPrepend + initSize) (0 : UInt8)).length ≤ kMaxSize
    rw [List.length_replicate]
    exact small

theorem raw_writableBytes (small : b.Small) : b.raw.writableBytes = b.writableBytes := by
  apply sizeSub_of_le b.writer_le_size
  unfold Small kMaxSize at small
  omega

theorem raw_retrieve {len : Nat} (within : len ≤ b.readableBytes) : b.raw.retrieve len = .ok (b.retrieve len).raw := by
  have asserted : len ≤ b.raw.readableBytes := within
  unfold RawBuffer.retrieve Buffer.retrieve
  rw [require_true _ asserted]
  by_cases less : len < b.readableBytes
  · have rawLess : len < b.raw.readableBytes := less
    simp only [less, rawLess, dite_true, if_true]
    rfl
  · have rawLess : ¬ len < b.raw.readableBytes := less
    simp only [less, rawLess, dite_false, if_false]
    rfl

/-- A part of the readable bytes is inside the vector. -/
theorem load_readable {len : Nat} (within : len ≤ b.readableBytes) :
    load b.buffer_ b.readerIndex_ (b.readerIndex_ + len) = .ok (b.readable.take len) := by
  have order := b.reader_le_writer
  have inside := b.writer_le_size
  unfold readableBytes at within
  unfold load
  rw [require_true _ ⟨by omega, by omega⟩]
  show Except.ok _ = Except.ok _
  rw [readable, List.drop_take, List.drop_take, List.take_take, Nat.add_sub_cancel_left, Nat.min_eq_left within]

theorem raw_retrieveAllAsString :
    b.raw.retrieveAllAsString = .ok (b.retrieveAllAsString.1, b.retrieveAllAsString.2.raw) := by
  have all : b.readable.take b.readableBytes = b.readable := by rw [← length_readable, List.take_length]
  have loaded := b.load_readable (Nat.le_refl _)
  rw [all] at loaded
  show (load b.buffer_ b.readerIndex_ (b.readerIndex_ + b.readableBytes) >>= fun result =>
    Except.ok (result, b.raw.retrieveAll)) = _
  rw [loaded]
  rfl

theorem raw_retrieveUntil {offset : Nat} (within : offset ≤ b.readableBytes) :
    b.raw.retrieveUntil (b.readerIndex_ + offset) = .ok (b.retrieveUntil offset).raw := by
  have order := b.reader_le_writer
  have start : b.raw.readerIndex_ ≤ b.readerIndex_ + offset := Nat.le_add_right _ _
  have stop : b.readerIndex_ + offset ≤ b.raw.writerIndex_ := by
    unfold readableBytes at within
    show _ ≤ b.writerIndex_
    omega
  have length : b.readerIndex_ + offset - b.raw.readerIndex_ = offset := Nat.add_sub_cancel_left _ _
  unfold RawBuffer.retrieveUntil
  rw [require_true _ start, require_true _ stop, length]
  exact b.raw_retrieve within

theorem raw_retrieveAsString {len : Nat} (within : len ≤ b.readableBytes) :
    b.raw.retrieveAsString len = .ok (b.readable.take len, (b.retrieve len).raw) := by
  have asserted : len ≤ b.raw.readableBytes := within
  unfold RawBuffer.retrieveAsString
  rw [require_true _ asserted, b.raw_retrieve within]
  show (load b.buffer_ b.readerIndex_ (b.readerIndex_ + len) >>= fun result =>
    Except.ok (result, (b.retrieve len).raw)) = _
  rw [b.load_readable within]
  rfl

/-- The two sums that `makeSpace` compares do not wrap. -/
theorem raw_short (small : b.Small) {len : Nat} (narrow : b.writableBytes < len) (fits : b.raw.Fits len) :
    sizeAdd b.raw.writableBytes b.raw.prependableBytes < sizeAdd len kCheapPrepend ↔
      b.writableBytes + b.prependableBytes < len + kCheapPrepend := by
  have order := b.reader_le_writer
  have inside := b.writer_le_size
  have front : b.raw.prependableBytes = b.prependableBytes := rfl
  unfold RawBuffer.Fits at fits
  rw [b.raw_writableBytes small, front] at fits ⊢
  have room : b.writableBytes + b.prependableBytes ≤ kMaxSize := by
    unfold Small at small
    unfold writableBytes prependableBytes
    omega
  have asked : len + kCheapPrepend < 2 ^ 64 := by
    by_cases short : b.writableBytes + b.prependableBytes < len + kCheapPrepend
    · have size : b.writerIndex_ + len ≤ kMaxSize := fits narrow short
      unfold kMaxSize at size
      unfold kCheapPrepend
      omega
    · unfold kMaxSize at room
      omega
  rw [sizeAdd_of_lt asked, sizeAdd_of_lt]
  unfold kMaxSize at room
  omega

/-- Growing makes the vector as large as the tail has to be. -/
theorem raw_grow {len : Nat} (narrow : b.writableBytes < len) (size : b.writerIndex_ + len ≤ kMaxSize) :
    resize b.buffer_ (sizeAdd b.writerIndex_ len) =
      .ok (b.buffer_ ++ List.replicate (b.writerIndex_ + len - b.buffer_.length) 0) := by
  have grows : b.buffer_.length ≤ b.writerIndex_ + len := by
    unfold writableBytes at narrow
    omega
  have sum : sizeAdd b.writerIndex_ len = b.writerIndex_ + len := by
    apply sizeAdd_of_lt
    unfold kMaxSize at size
    omega
  rw [sum, resize_of_le grows size]

/-- With more than `kCheapPrepend` bytes in front the readable bytes move left. -/
theorem raw_slide (left : kCheapPrepend < b.readerIndex_) :
    move b.buffer_ b.readerIndex_ b.writerIndex_ kCheapPrepend = .ok (copyTo b.buffer_ kCheapPrepend b.readable) ∧
      kCheapPrepend + b.readable.length ≤ b.buffer_.length := by
  have order := b.reader_le_writer
  have inside := b.writer_le_size
  have room : kCheapPrepend + b.readable.length ≤ b.buffer_.length := by
    rw [length_readable, readableBytes]
    omega
  refine ⟨?_, room⟩
  unfold move load
  rw [require_true _ (Or.inl left), require_true _ ⟨order, inside⟩]
  exact store_of_le room

/-- When the tail is too small, the sliding branch has more than `kCheapPrepend` bytes in front. -/
theorem raw_makeSpace (small : b.Small) {len : Nat} (narrow : b.writableBytes < len) (fits : b.raw.Fits len) :
    b.raw.makeSpace len = .ok (b.makeSpace len).raw ∧ (b.makeSpace len).Small := by
  have inside := b.writer_le_size
  unfold RawBuffer.makeSpace Buffer.makeSpace
  by_cases short : b.writableBytes + b.prependableBytes < len + kCheapPrepend
  · have size : b.writerIndex_ + len ≤ kMaxSize :=
      fits (by rwa [b.raw_writableBytes small]) (by rwa [b.raw_writableBytes small])
    rw [if_pos ((b.raw_short small narrow fits).mpr short), dif_pos short]
    refine ⟨?_, ?_⟩
    · show (resize b.buffer_ (sizeAdd b.writerIndex_ len) >>= fun buffer_ => Except.ok (RawBuffer.mk buffer_ _ _)) = _
      rw [b.raw_grow narrow size]
      rfl
    · show (b.buffer_ ++ List.replicate (b.writerIndex_ + len - b.buffer_.length) 0).length ≤ kMaxSize
      rw [List.length_append, List.length_replicate]
      unfold writableBytes at narrow
      omega
  · have left : kCheapPrepend < b.readerIndex_ := by
      unfold prependableBytes at short
      omega
    obtain ⟨slid, room⟩ := b.raw_slide left
    have sum : sizeAdd kCheapPrepend b.raw.readableBytes = kCheapPrepend + b.readableBytes := by
      apply sizeAdd_of_lt
      show kCheapPrepend + b.readableBytes < _
      rw [length_readable] at room
      unfold Small kMaxSize at small
      omega
    rw [if_neg (mt (b.raw_short small narrow fits).mp short), dif_neg short]
    refine ⟨?_, ?_⟩
    · show (move b.buffer_ b.readerIndex_ b.writerIndex_ kCheapPrepend >>= fun buffer_ =>
        Except.ok (RawBuffer.mk buffer_ _ (sizeAdd kCheapPrepend b.raw.readableBytes))) = _
      rw [slid, sum]
      rfl
    · show (copyTo b.buffer_ kCheapPrepend b.readable).length ≤ kMaxSize
      rw [length_copyTo room]
      exact small

theorem raw_ensureWritableBytes (small : b.Small) {len : Nat} (fits : b.raw.Fits len) :
    b.raw.ensureWritableBytes len = .ok (b.ensureWritableBytes len).raw ∧ (b.ensureWritableBytes len).Small := by
  unfold RawBuffer.ensureWritableBytes Buffer.ensureWritableBytes
  rw [b.raw_writableBytes small]
  by_cases narrow : b.writableBytes < len
  · rw [if_pos narrow, if_pos narrow]
    exact b.raw_makeSpace small narrow fits
  · rw [if_neg narrow, if_neg narrow]
    exact ⟨rfl, small⟩

/-- Bytes that fit in the tail are copied behind the writer index. -/
theorem raw_write (small : b.Small) {data : Bytes} (room : data.length ≤ b.writableBytes) :
    (store b.buffer_ b.writerIndex_ data >>= fun buffer_ =>
      RawBuffer.hasWritten ⟨buffer_, b.readerIndex_, b.writerIndex_⟩ data.length) =
      .ok ⟨copyTo b.buffer_ b.writerIndex_ data, b.readerIndex_, b.writerIndex_ + data.length⟩ := by
  have inside := b.writer_le_size
  have fits : b.writerIndex_ + data.length ≤ b.buffer_.length := by
    unfold writableBytes at room
    omega
  have asserted : data.length ≤ (RawBuffer.mk (copyTo b.buffer_ b.writerIndex_ data) b.readerIndex_
      b.writerIndex_).writableBytes := by
    have same := b.raw_writableBytes small
    rw [RawBuffer.writableBytes, length_copyTo fits]
    exact room.trans_eq same.symm
  have sum : sizeAdd b.writerIndex_ data.length = b.writerIndex_ + data.length := by
    apply sizeAdd_of_lt
    unfold Small kMaxSize at small
    omega
  rw [store_of_le fits]
  show RawBuffer.hasWritten ⟨copyTo b.buffer_ b.writerIndex_ data, _, _⟩ _ = _
  unfold RawBuffer.hasWritten
  rw [require_true _ asserted, sum]
  rfl

theorem raw_append (small : b.Small) {data : Bytes} (fits : b.raw.Fits data.length) :
    b.raw.append data = .ok (b.append data).raw ∧ (b.append data).Small := by
  obtain ⟨ensured, small'⟩ := b.raw_ensureWritableBytes small fits
  have room := b.writable_ensureWritableBytes data.length
  refine ⟨?_, ?_⟩
  · unfold RawBuffer.append
    rw [ensured]
    exact raw_write _ small' room
  · have inside := (b.ensureWritableBytes data.length).writer_le_size
    show (copyTo (b.ensureWritableBytes data.length).buffer_ _ data).length ≤ kMaxSize
    rw [length_copyTo (by unfold writableBytes at room; omega)]
    exact small'

theorem raw_prepend {data : Bytes} (fits : data.length ≤ b.prependableBytes) :
    b.raw.prepend data = .ok (b.prepend data fits).raw := by
  have order := b.reader_le_writer
  have inside := b.writer_le_size
  have asserted : data.length ≤ b.raw.prependableBytes := fits
  have room : b.readerIndex_ - data.length + data.length ≤ b.buffer_.length := by
    unfold prependableBytes at fits
    omega
  unfold RawBuffer.prepend
  rw [require_true _ asserted]
  show (store b.buffer_ (b.readerIndex_ - data.length) data >>= fun buffer_ => _) = _
  rw [store_of_le room]
  rfl

theorem raw_append_of_fits {data : Bytes} (fits : data.length ≤ b.writableBytes) :
    (b.append data).raw = ⟨copyTo b.buffer_ b.writerIndex_ data, b.readerIndex_, b.writerIndex_ + data.length⟩ := by
  have roomy : b.ensureWritableBytes data.length = b := if_neg (Nat.not_lt.mpr fits)
  have appended : (b.append data).raw = ⟨copyTo (b.ensureWritableBytes data.length).buffer_
      (b.ensureWritableBytes data.length).writerIndex_ data, (b.ensureWritableBytes data.length).readerIndex_,
      (b.ensureWritableBytes data.length).writerIndex_ + data.length⟩ := rfl
  rw [appended, roomy]

theorem raw_append_nil : (b.append []).raw = b.raw := by
  rw [b.raw_append_of_fits (Nat.zero_le _)]
  simp [raw, copyTo]

theorem fits_of_room (small : b.Small) {len : Nat} (room : len ≤ b.writableBytes) : b.raw.Fits len := by
  intro narrow
  rw [b.raw_writableBytes small] at narrow
  omega

/-- What does not fit in the tail is appended to a buffer without one. -/
theorem raw_readFd (small : b.Small) {received : Bytes}
    (fits : RawBuffer.Fits { b.raw with writerIndex_ := b.buffer_.length } (received.length - b.writableBytes)) :
    b.raw.readFd received = .ok (b.readFd received).raw ∧ (b.readFd received).Small := by
  have inside := b.writer_le_size
  have part : (received.take b.writableBytes).length ≤ b.writableBytes := List.length_take_le _ _
  have room : b.writerIndex_ + (received.take b.writableBytes).length ≤ b.buffer_.length := by
    unfold writableBytes at part ⊢
    omega
  have first := b.raw_append_of_fits part
  obtain ⟨-, smallFirst⟩ := b.raw_append small (b.fits_of_room small part)
  unfold RawBuffer.readFd Buffer.readFd
  rw [b.raw_writableBytes small]
  show ((store b.buffer_ b.writerIndex_ (received.take b.writableBytes) >>= fun buffer_ =>
    if received.length ≤ b.writableBytes then _ else _) = _) ∧ _
  rw [store_of_le room]
  by_cases within : received.length ≤ b.writableBytes
  · have sum : sizeAdd b.raw.writerIndex_ received.length = b.writerIndex_ + received.length := by
      apply sizeAdd_of_lt
      show b.writerIndex_ + received.length < _
      unfold writableBytes at within
      unfold Small kMaxSize at small
      omega
    have small' : ((b.append received).append []).Small :=
      (raw_append _ (b.raw_append small (b.fits_of_room small within)).2
        (fits_of_room _ (b.raw_append small (b.fits_of_room small within)).2 (Nat.zero_le _))).2
    rw [List.drop_eq_nil_of_le within, raw_append_nil, first, List.take_of_length_le within]
    refine ⟨(if_pos within).trans ?_, small'⟩
    rw [sum]
    rfl
  · have full : (received.take b.writableBytes).length = b.writableBytes := by
      rw [List.length_take]
      omega
    have size : (copyTo b.buffer_ b.writerIndex_ (received.take b.writableBytes)).length =
        b.writerIndex_ + (received.take b.writableBytes).length := by
      rw [length_copyTo room, full]
      unfold writableBytes
      omega
    have rest : (b.append (received.take b.writableBytes)).raw.Fits (received.drop b.writableBytes).length := by
      rw [first, List.length_drop, ← size]
      unfold RawBuffer.Fits RawBuffer.writableBytes at fits ⊢
      rw [length_copyTo room]
      exact fits
    obtain ⟨appended, small'⟩ := raw_append _ smallFirst rest
    rw [← appended, first]
    refine ⟨(if_neg within).trans ?_, small'⟩
    show RawBuffer.append ⟨_, _, (copyTo b.buffer_ b.writerIndex_ (received.take b.writableBytes)).length⟩ _ = _
    rw [size]
    rfl

end Raw
end Buffer

/-! ### Runs of operations -/

inductive BufferOp where
  | append (data : Bytes)
  | prepend (data : Bytes)
  | retrieve (len : Nat)
  | retrieveAll
  | retrieveAsString (len : Nat)
  | retrieveAllAsString
  /-- `end` as an offset from `peek()`. -/
  | retrieveUntil (offset : Nat)
  | ensureWritableBytes (len : Nat)
  /-- What `readv` delivered, or nothing when it failed. -/
  | readFd (received : Option Bytes)

/-- What the callers of the operation guarantee, and the kernel for `readv`. -/
def BufferOp.Allowed (b : RawBuffer) : BufferOp → Prop
  | .prepend data => data.length ≤ b.prependableBytes
  | .retrieve len | .retrieveAsString len | .retrieveUntil len => len ≤ b.readableBytes
  | .readFd (some received) => received.length ≤ b.offeredBytes
  | _ => True

instance (b : RawBuffer) : (op : BufferOp) → Decidable (op.Allowed b)
  | .prepend _ | .retrieve _ | .retrieveAsString _ | .retrieveUntil _ | .readFd (some _) => inferInstanceAs (Decidable (_ ≤ _))
  | .append _ | .retrieveAll | .retrieveAllAsString | .ensureWritableBytes _ | .readFd none => inferInstanceAs (Decidable True)

/-- No size that the operation asks for is larger than a vector can be. -/
def BufferOp.Fits (b : RawBuffer) : BufferOp → Prop
  | .append data => b.Fits data.length
  | .ensureWritableBytes len => b.Fits len
  | .readFd (some received) => RawBuffer.Fits { b with writerIndex_ := b.buffer_.length } (received.length - b.writableBytes)
  | _ => True

instance (b : RawBuffer) : (op : BufferOp) → Decidable (op.Fits b)
  | .append _ | .ensureWritableBytes _ | .readFd (some _) => inferInstanceAs (Decidable (RawBuffer.Fits _ _))
  | .prepend _ | .retrieve _ | .retrieveAll | .retrieveAsString _ | .retrieveAllAsString | .retrieveUntil _
  | .readFd none => inferInstanceAs (Decidable True)

/-- One operation, with the string that it returns. -/
def RawBuffer.apply (b : RawBuffer) : BufferOp → Except Fault (Bytes × RawBuffer)
  | .append data => return ([], ← b.append data)
  | .prepend data => return ([], ← b.prepend data)
  | .retrieve len => return ([], ← b.retrieve len)
  | .retrieveAll => return ([], b.retrieveAll)
  | .retrieveAsString len => b.retrieveAsString len
  | .retrieveAllAsString => b.retrieveAllAsString
  | .retrieveUntil offset => return ([], ← b.retrieveUntil (b.readerIndex_ + offset))
  | .ensureWritableBytes len => return ([], ← b.ensureWritableBytes len)
  | .readFd none => return ([], b)
  | .readFd (some received) => return ([], ← b.readFd received)

/-- The same operation on a plain list of bytes. -/
def BufferOp.onQueue (queue : Bytes) : BufferOp → Bytes × Bytes
  | .append data => ([], queue ++ data)
  | .prepend data => ([], data ++ queue)
  | .retrieve len | .retrieveUntil len => ([], queue.drop len)
  | .retrieveAll => ([], [])
  | .retrieveAsString len => (queue.take len, queue.drop len)
  | .retrieveAllAsString => (queue, [])
  | .ensureWritableBytes _ | .readFd none => ([], queue)
  | .readFd (some received) => ([], queue ++ received)

theorem Buffer.small_retrieve {b : Buffer} (small : b.Small) (len : Nat) : (b.retrieve len).Small := by
  unfold Buffer.retrieve
  split <;> exact small

/-- An allowed operation that fits, on a buffer that keeps the invariant, has no fault, keeps it, and does what the queue
does. -/
theorem Buffer.raw_apply {b : Buffer} (small : b.Small) {op : BufferOp} (allowed : op.Allowed b.raw) (fits : op.Fits b.raw) :
    ∃ b' : Buffer, b.raw.apply op = .ok ((op.onQueue b.readable).1, b'.raw) ∧ b'.readable = (op.onQueue b.readable).2 ∧
      b'.Small := by
  cases op with
  | append data =>
    obtain ⟨appended, small'⟩ := b.raw_append small fits
    exact ⟨b.append data, by rw [RawBuffer.apply, appended]; rfl, b.readable_append data, small'⟩
  | prepend data =>
    refine ⟨b.prepend data allowed, by rw [RawBuffer.apply, b.raw_prepend allowed]; rfl, b.readable_prepend data allowed, ?_⟩
    exact (length_copyTo_front allowed).trans_le small
  | retrieve len =>
    exact ⟨b.retrieve len, by rw [RawBuffer.apply, b.raw_retrieve allowed]; rfl, b.readable_retrieve len,
      small_retrieve small len⟩
  | retrieveAll => exact ⟨b.retrieveAll, rfl, b.readable_retrieveAll, small⟩
  | retrieveAsString len =>
    exact ⟨b.retrieve len, b.raw_retrieveAsString allowed, b.readable_retrieve len, small_retrieve small len⟩
  | retrieveAllAsString => exact ⟨b.retrieveAll, b.raw_retrieveAllAsString, b.readable_retrieveAll, small⟩
  | retrieveUntil offset =>
    refine ⟨b.retrieveUntil offset, ?_, b.readable_retrieveUntil offset, small_retrieve small offset⟩
    show (b.raw.retrieveUntil (b.readerIndex_ + offset) >>= fun b' => Except.ok ([], b')) = _
    rw [b.raw_retrieveUntil allowed]
    rfl
  | ensureWritableBytes len =>
    obtain ⟨ensured, small'⟩ := b.raw_ensureWritableBytes small fits
    exact ⟨b.ensureWritableBytes len, by rw [RawBuffer.apply, ensured]; rfl, b.readable_ensureWritableBytes len, small'⟩
  | readFd received =>
    cases received with
    | none => exact ⟨b, rfl, rfl, small⟩
    | some received =>
      have overflow : RawBuffer.Fits { b.raw with writerIndex_ := b.buffer_.length } (received.length - b.writableBytes) := by
        rw [← b.raw_writableBytes small]
        exact fits
      obtain ⟨read, small'⟩ := b.raw_readFd small overflow
      exact ⟨b.readFd received, by rw [RawBuffer.apply, read]; rfl, b.readable_readFd received, small'⟩

/-- The strings returned so far, and the buffer. -/
abbrev RawBuffer.State := Except Fault (List Bytes × RawBuffer)

def RawBuffer.start (initSize : Nat) : State := do return ([], ← RawBuffer.new initSize)

def RawBuffer.step (state : State) (op : BufferOp) : State := do
  let (returned, b) ← state
  let (result, b) ← b.apply op
  return (returned ++ [result], b)

def BufferOp.queueStep (state : List Bytes × Bytes) (op : BufferOp) : List Bytes × Bytes :=
  (state.1 ++ [(op.onQueue state.2).1], (op.onQueue state.2).2)

def BufferOp.AllowedIn : RawBuffer.State → BufferOp → Prop
  | .ok (_, b), op => op.Allowed b
  | .error _, _ => True

instance : (state : RawBuffer.State) → (op : BufferOp) → Decidable (op.AllowedIn state)
  | .ok (_, b), op => inferInstanceAs (Decidable (op.Allowed b))
  | .error _, _ => inferInstanceAs (Decidable True)

def BufferOp.FitsIn : RawBuffer.State → BufferOp → Prop
  | .ok (_, b), op => op.Fits b
  | .error _, _ => True

instance : (state : RawBuffer.State) → (op : BufferOp) → Decidable (op.FitsIn state)
  | .ok (_, b), op => inferInstanceAs (Decidable (op.Fits b))
  | .error _, _ => inferInstanceAs (Decidable True)

/-- The buffer refines a queue of bytes: along every run of allowed operations whose sizes fit there is no fault, the
indices stay in order and inside the vector, and the readable bytes and the strings returned are those of the queue. -/
theorem rawBuffer_refines_queue (initSize : Nat) (ops : List BufferOp) (fits : kCheapPrepend + initSize ≤ kMaxSize)
    (meets : Meets RawBuffer.step (fun state op => BufferOp.AllowedIn state op ∧ BufferOp.FitsIn state op)
      (RawBuffer.start initSize) ops) :
    ∃ b, run RawBuffer.step (RawBuffer.start initSize) ops = .ok ((run BufferOp.queueStep ([], []) ops).1, b) ∧
      b.readerIndex_ ≤ b.writerIndex_ ∧ b.writerIndex_ ≤ b.buffer_.length ∧
      b.readable = (run BufferOp.queueStep ([], []) ops).2 := by
  let related (state : RawBuffer.State) (queue : List Bytes × Bytes) : Prop :=
    ∃ b : Buffer, state = .ok (queue.1, b.raw) ∧ b.readable = queue.2 ∧ b.Small
  have start : related (RawBuffer.start initSize) ([], []) := by
    obtain ⟨built, small⟩ := Buffer.raw_new fits
    refine ⟨Buffer.new initSize, ?_, Buffer.readable_new initSize, small⟩
    rw [RawBuffer.start, built]
    rfl
  have kept : ∀ state queue op, related state queue → BufferOp.AllowedIn state op ∧ BufferOp.FitsIn state op →
      related (RawBuffer.step state op) (BufferOp.queueStep queue op) := by
    rintro state queue op ⟨b, rfl, bytes, small⟩ ⟨permitted, sized⟩
    obtain ⟨b', applied, readable, small'⟩ := Buffer.raw_apply small permitted sized
    refine ⟨b', ?_, ?_, small'⟩
    · show (b.raw.apply op >>= fun result => Except.ok (queue.1 ++ [result.1], result.2)) = _
      rw [applied, bytes]
      rfl
    · rw [readable, bytes]
      rfl
  obtain ⟨b, final, readable, -⟩ := run_simulation RawBuffer.step start kept meets
  exact ⟨b.raw, final, b.reader_le_writer, b.writer_le_size, readable⟩

/-- The second `append` slides the bytes to the left, and `readFd` grows the vector. -/
def slidingOps : List BufferOp :=
  [.append [1, 2, 3], .retrieve 2, .prepend [8, 9], .retrieveAsString 2, .append [4, 5], .readFd (some [6, 7])]

theorem rawBuffer_refines_queue_sliding :
    ∃ b, run RawBuffer.step (RawBuffer.start 4) slidingOps = .ok ([[], [], [], [8, 9], [], []], b) ∧
      b.readerIndex_ ≤ b.writerIndex_ ∧ b.writerIndex_ ≤ b.buffer_.length ∧ b.readable = [3, 4, 5, 6, 7] :=
  rawBuffer_refines_queue 4 slidingOps (by decide) (by decide)

/-- The sum in `makeSpace` wraps to 0, so that the bytes are slid although there is no room in front of them. -/
def wrappingOps : List BufferOp := [.prepend [1, 2, 3, 4, 5, 6, 7, 8], .ensureWritableBytes (2 ^ 64 - 8)]

/-- The largest initial size gives a vector of 7 bytes with the indices behind its end, and with an ordinary one a copy
leaves the vector. -/
theorem sizes_wrap :
    (∃ b, RawBuffer.start (2 ^ 64 - 1) = .ok ([], b) ∧ b.buffer_.length < b.writerIndex_) ∧
      Meets RawBuffer.step BufferOp.AllowedIn (RawBuffer.start 4) wrappingOps ∧
      run RawBuffer.step (RawBuffer.start 4) wrappingOps = .error .outOfBounds :=
  ⟨⟨⟨List.replicate 7 0, 8, 8⟩, by decide⟩, by decide, by decide⟩

end IotGateway.Net
