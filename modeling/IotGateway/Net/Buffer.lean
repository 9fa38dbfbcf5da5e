import IotGateway.Lib.Text

/-!
# The network buffer

`Buffer` keeps its bytes in one vector with a reader and a writer index. Growing,
sliding and copying happen inside the vector. The rest of the development only uses
`readable`, the bytes between the indices, through the lemmas of this module.
-/

namespace IotGateway.Net
open Text

def kCheapPrepend : Nat := 8

def kInitialSize : Nat := 1024

structure Buffer where
  buffer_ : Bytes
  readerIndex_ : Nat
  writerIndex_ : Nat
  reader_le_writer : readerIndex_ ≤ writerIndex_
  writer_le_size : writerIndex_ ≤ buffer_.length
  prepend_le_size : kCheapPrepend ≤ buffer_.length

def copyTo (buffer : Bytes) (pos : Nat) (data : Bytes) : Bytes :=
  buffer.take pos ++ data ++ buffer.drop (pos + data.length)

theorem length_copyTo {buffer data : Bytes} {pos : Nat} (fits : pos + data.length ≤ buffer.length) :
    (copyTo buffer pos data).length = buffer.length := by
  simp only [copyTo, List.length_append, List.length_take, List.length_drop]
  omega

namespace Buffer

def new (initSize : Nat) : Buffer where
  buffer_ := List.replicate (kCheapPrepend + initSize) 0
  readerIndex_ := kCheapPrepend
  writerIndex_ := kCheapPrepend
  reader_le_writer := Nat.le_refl _
  writer_le_size := by simp
  prepend_le_size := by simp

def readableBytes (b : Buffer) : Nat := b.writerIndex_ - b.readerIndex_

def writableBytes (b : Buffer) : Nat := b.buffer_.length - b.writerIndex_

def prependableBytes (b : Buffer) : Nat := b.readerIndex_

/-- The bytes that `peek()` points to, `readableBytes()` of them. -/
def readable (b : Buffer) : Bytes := (b.buffer_.take b.writerIndex_).drop b.readerIndex_

theorem length_readable (b : Buffer) : b.readable.length = b.readableBytes := by
  simp [readable, readableBytes, Nat.min_eq_left b.writer_le_size]

/-! ### Taking bytes out -/

def retrieveAll (b : Buffer) : Buffer :=
  { b with
    readerIndex_ := kCheapPrepend
    writerIndex_ := kCheapPrepend
    reader_le_writer := Nat.le_refl _
    writer_le_size := b.prepend_le_size }

/-- `retrieve(len)`; its assertion `len <= readableBytes()` is a fact about the callers. -/
def retrieve (b : Buffer) (len : Nat) : Buffer :=
  if within : len < b.readableBytes then
    { b with
      readerIndex_ := b.readerIndex_ + len
      reader_le_writer := by unfold readableBytes at within; omega }
  else b.retrieveAll

def retrieveAllAsString (b : Buffer) : Bytes × Buffer := (b.readable, b.retrieveAll)

/-- `retrieveUntil(end)` with `end` given as an offset from `peek()`. -/
def retrieveUntil (b : Buffer) (offset : Nat) : Buffer := b.retrieve offset

@[simp] theorem readable_retrieveAll (b : Buffer) : b.retrieveAll.readable = [] := by
  simp [readable, retrieveAll]

@[simp] theorem readable_retrieve (b : Buffer) (len : Nat) : (b.retrieve len).readable = b.readable.drop len := by
  unfold retrieve
  split
  · simp [readable, List.drop_drop]
  · rename_i beyond
    rw [readable_retrieveAll, List.drop_eq_nil_of_le (by rw [length_readable]; omega)]

@[simp] theorem readable_retrieveUntil (b : Buffer) (offset : Nat) :
    (b.retrieveUntil offset).readable = b.readable.drop offset := readable_retrieve b offset

/-! ### Putting bytes in -/

/-- `makeSpace(len)`: grow the vector, or slide the readable bytes down to `kCheapPrepend`. -/
def makeSpace (b : Buffer) (len : Nat) : Buffer :=
  if short : b.writableBytes + b.prependableBytes < len + kCheapPrepend then
    { b with
      buffer_ := b.buffer_ ++ List.replicate (b.writerIndex_ + len - b.buffer_.length) 0
      writer_le_size := by rw [List.length_append]; exact Nat.le_add_right_of_le b.writer_le_size
      prepend_le_size := by rw [List.length_append]; exact Nat.le_add_right_of_le b.prepend_le_size }
  else
    have room : kCheapPrepend + b.readable.length ≤ b.buffer_.length := by
      have := b.reader_le_writer
      have := b.writer_le_size
      rw [length_readable]
      unfold readableBytes writableBytes prependableBytes at *
      omega
    { buffer_ := copyTo b.buffer_ kCheapPrepend b.readable
      readerIndex_ := kCheapPrepend
      writerIndex_ := kCheapPrepend + b.readableBytes
      reader_le_writer := Nat.le_add_right _ _
      writer_le_size := by rw [length_copyTo room, ← length_readable]; exact room
      prepend_le_size := by rw [length_copyTo room]; exact b.prepend_le_size }

def ensureWritableBytes (b : Buffer) (len : Nat) : Buffer :=
  if b.writableBytes < len then b.makeSpace len else b

theorem readable_makeSpace (b : Buffer) (len : Nat) : (b.makeSpace len).readable = b.readable := by
  unfold makeSpace
  split
  · simp [readable, List.take_append_of_le_length b.writer_le_size]
  · rename_i roomy
    have prefixLength : (b.buffer_.take kCheapPrepend).length = kCheapPrepend := by
      simp [Nat.min_eq_left b.prepend_le_size]
    have bytes : (copyTo b.buffer_ kCheapPrepend b.readable).take (kCheapPrepend + b.readableBytes) =
        b.buffer_.take kCheapPrepend ++ b.readable := by
      unfold copyTo
      rw [List.take_append_of_le_length (by simp [prefixLength, length_readable])]
      exact List.take_of_length_le (by simp [prefixLength, length_readable])
    show ((copyTo b.buffer_ kCheapPrepend b.readable).take (kCheapPrepend + b.readableBytes)).drop kCheapPrepend = _
    rw [bytes, List.drop_append_of_le_length (by rw [prefixLength]), List.drop_of_length_le (by rw [prefixLength]),
      List.nil_append]

theorem writable_makeSpace (b : Buffer) (len : Nat) (narrow : b.writableBytes < len) :
    len ≤ (b.makeSpace len).writableBytes := by
  have := b.reader_le_writer
  have := b.writer_le_size
  unfold makeSpace
  split
  · simp only [writableBytes, List.length_append, List.length_replicate] at *
    omega
  · rename_i roomy
    have fits : kCheapPrepend + b.readable.length ≤ b.buffer_.length := by
      rw [length_readable]
      unfold readableBytes writableBytes prependableBytes at *
      omega
    simp only [writableBytes, length_copyTo fits]
    unfold readableBytes writableBytes prependableBytes at *
    omega

theorem readable_ensureWritableBytes (b : Buffer) (len : Nat) :
    (b.ensureWritableBytes len).readable = b.readable := by
  unfold ensureWritableBytes
  split
  · exact readable_makeSpace b len
  · rfl

theorem writable_ensureWritableBytes (b : Buffer) (len : Nat) : len ≤ (b.ensureWritableBytes len).writableBytes := by
  unfold ensureWritableBytes
  split
  · rename_i narrow
    exact writable_makeSpace b len narrow
  · rename_i roomy
    exact Nat.not_lt.mp roomy

def append (b : Buffer) (data : Bytes) : Buffer :=
  let b' := b.ensureWritableBytes data.length
  have fits : b'.writerIndex_ + data.length ≤ b'.buffer_.length := by
    have room : data.length ≤ b'.writableBytes := writable_ensureWritableBytes b data.length
    have := b'.writer_le_size
    unfold writableBytes at room
    omega
  { b' with
    buffer_ := copyTo b'.buffer_ b'.writerIndex_ data
    writerIndex_ := b'.writerIndex_ + data.length
    reader_le_writer := Nat.le_add_right_of_le b'.reader_le_writer
    writer_le_size := by rw [length_copyTo fits]; exact fits
    prepend_le_size := by rw [length_copyTo fits]; exact b'.prepend_le_size }

@[simp] theorem readable_append (b : Buffer) (data : Bytes) : (b.append data).readable = b.readable ++ data := by
  rw [← readable_ensureWritableBytes b data.length]
  generalize same : b.ensureWritableBytes data.length = b'
  have written : (b.append data).readable =
      ((copyTo b'.buffer_ b'.writerIndex_ data).take (b'.writerIndex_ + data.length)).drop b'.readerIndex_ := by
    subst same
    rfl
  have start : (b'.buffer_.take b'.writerIndex_).length = b'.writerIndex_ := by
    simp [Nat.min_eq_left b'.writer_le_size]
  have front : (copyTo b'.buffer_ b'.writerIndex_ data).take (b'.writerIndex_ + data.length) =
      b'.buffer_.take b'.writerIndex_ ++ data := by
    unfold copyTo
    rw [List.take_append_of_le_length (by simp [start])]
    exact List.take_of_length_le (by simp [start])
  rw [written, front, List.drop_append_of_le_length (by rw [start]; exact b'.reader_le_writer)]
  rfl

@[simp] theorem readable_new (initSize : Nat) : (new initSize).readable = [] := by
  apply List.eq_nil_of_length_eq_zero
  rw [length_readable]
  exact Nat.sub_self kCheapPrepend

/-! ### Bytes in front -/

theorem length_copyTo_front {b : Buffer} {data : Bytes} (fits : data.length ≤ b.prependableBytes) :
    (copyTo b.buffer_ (b.readerIndex_ - data.length) data).length = b.buffer_.length := by
  have := b.reader_le_writer
  have := b.writer_le_size
  apply length_copyTo
  unfold prependableBytes at fits
  omega

/-- `prepend(data, len)` with its assertion as a hypothesis. -/
def prepend (b : Buffer) (data : Bytes) (fits : data.length ≤ b.prependableBytes) : Buffer :=
  { b with
    buffer_ := copyTo b.buffer_ (b.readerIndex_ - data.length) data
    readerIndex_ := b.readerIndex_ - data.length
    reader_le_writer := Nat.le_trans (Nat.sub_le _ _) b.reader_le_writer
    writer_le_size := by rw [length_copyTo_front fits]; exact b.writer_le_size
    prepend_le_size := by rw [length_copyTo_front fits]; exact b.prepend_le_size }

theorem readable_prepend (b : Buffer) (data : Bytes) (fits : data.length ≤ b.prependableBytes) :
    (b.prepend data fits).readable = data ++ b.readable := by
  have order := b.reader_le_writer
  have inside := b.writer_le_size
  unfold prependableBytes at fits
  have front : (b.buffer_.take (b.readerIndex_ - data.length)).length = b.readerIndex_ - data.length := by
    rw [List.length_take]
    omega
  have place : b.readerIndex_ - data.length + data.length = b.readerIndex_ := Nat.sub_add_cancel fits
  have rest : b.writerIndex_ = (b.readerIndex_ - data.length) + (data.length + (b.writerIndex_ - b.readerIndex_)) := by omega
  unfold readable prepend copyTo
  dsimp only
  rw [place, List.append_assoc, List.drop_take, List.drop_left' front, rest, Nat.add_sub_cancel_left,
    List.take_append, List.take_of_length_le (by omega), List.drop_take]
  congr 2
  omega

/-! ### Reading from a descriptor -/

def kExtraBytes : Nat := 65536

/-- `readFd` when `readv` delivers `received`: what does not fit in the tail comes from the stack buffer. -/
def readFd (b : Buffer) (received : Bytes) : Buffer :=
  (b.append (received.take b.writableBytes)).append (received.drop b.writableBytes)

@[simp] theorem readable_readFd (b : Buffer) (received : Bytes) :
    (b.readFd received).readable = b.readable ++ received := by
  rw [readFd, readable_append, readable_append, List.append_assoc, List.take_append_drop]

/-! ### Lines -/

def kCRLF : Bytes := [13, 10]

def findCRLF (b : Buffer) : Option Nat := indexOf kCRLF b.readable

end Buffer
end IotGateway.Net
