import Mathlib.Tactic.Ring
import Silbo.Proofs.Workspace
import Silbo.Wave

/-!
A file of chunks, each with a name, its size and a body. A reader that knows no more of wave files
than how chunks are laid out and what their fields stand for finds in the file of some samples
the description of their format and every frame.
-/
namespace Silbo

theorem Wave.ofSamples_eq {r : Int} (hpos : 0 < r) (hheld : 2 * r < fieldLimit) (s : Samples) :
    ofSamples (.int r) s =
      if 36 + 2 * s.size < fieldLimit then .ok ⟨r.toNat, s.toList.map quantize⟩
      else .error .headerOverflow := by
  unfold ofSamples
  dsimp only
  rw [if_neg (by omega)]
  by_cases hsize : 36 + 2 * s.size < fieldLimit
  · rw [if_pos hsize, if_neg (by omega)]
    rfl
  · rw [if_neg hsize, if_pos (by omega)]
    rfl

namespace Riff

/-- What bytes stand for, the least significant one coming first. -/
def number (bytes : List UInt8) : Nat := bytes.foldr (fun b n => b.toNat + 256 * n) 0

@[simp] theorem number_nil : number [] = 0 := rfl

@[simp] theorem number_cons (b : UInt8) (bytes : List UInt8) :
    number (b :: bytes) = b.toNat + 256 * number bytes := rfl

def signed (bits n : Nat) : Int := if 2 * n < 2 ^ bits then n else n - 2 ^ bits

structure Chunk where
  name : List UInt8
  size : Nat
  body : List UInt8
  deriving DecidableEq, Repr

/-- The chunks of some bytes: a name of four bytes, the size in four more, the body, and one byte
that does not count after a body of odd size. -/
def chunks (bytes : List UInt8) : Option (List Chunk) :=
  if bytes = [] then some []
  else if bytes.length < 8 then none
  else
    let size := number ((bytes.drop 4).take 4)
    let rest := bytes.drop 8
    if rest.length < size then none
    else (chunks (rest.drop (size + size % 2))).map (⟨bytes.take 4, size, rest.take size⟩ :: ·)
termination_by bytes.length
decreasing_by simp only [List.length_drop]; omega

def frames : List UInt8 → Option (List Int)
  | [] => some []
  | [_] => none
  | low :: high :: rest => (frames rest).map (signed 16 (number [low, high]) :: ·)

/-- What a wave file says. A format of one means that the frames are not compressed. -/
structure Contents where
  size : Nat
  format : Nat
  channels : Nat
  rate : Nat
  byteRate : Nat
  blockAlign : Nat
  bits : Nat
  dataSize : Nat
  frames : List Int
  deriving DecidableEq, Repr

/-- The letters of `RIFF`. -/
def riff : List UInt8 := [0x52, 0x49, 0x46, 0x46]

/-- The letters of `WAVE`. -/
def wave : List UInt8 := [0x57, 0x41, 0x56, 0x45]

/-- The letters of `fmt` and a space. -/
def fmt : List UInt8 := [0x66, 0x6D, 0x74, 0x20]

/-- The letters of `data`. -/
def data : List UInt8 := [0x64, 0x61, 0x74, 0x61]

def find? (name : List UInt8) (cs : List Chunk) : Option Chunk := cs.find? (·.name = name)

def field (bytes : List UInt8) (start width : Nat) : Nat := number ((bytes.drop start).take width)

/-- Reads a wave file whose frames have sixteen bits. The file is one chunk, which holds a word for
what it is and then chunks in turn. -/
def read (bytes : List UInt8) : Option Contents := do
  let [file] ← chunks bytes | none
  if file.name ≠ riff ∨ file.body.take 4 ≠ wave then none
  let parts ← chunks (file.body.drop 4)
  let about ← find? fmt parts
  let data ← find? data parts
  let values ← frames data.body
  pure
    { size := file.size
      format := field about.body 0 2
      channels := field about.body 2 2
      rate := field about.body 4 4
      byteRate := field about.body 8 4
      blockAlign := field about.body 12 2
      bits := field about.body 14 2
      dataSize := data.size
      frames := values }

section Fields

variable {n : Nat} {name body rest : List UInt8}

theorem number_append (a b : List UInt8) :
    number (a ++ b) = number a + 256 ^ a.length * number b := by
  induction a with
  | nil => simp
  | cons x a ih =>
    rw [List.cons_append, number_cons, number_cons, ih, List.length_cons, pow_succ]
    ring

theorem number_bytes16 (n : Nat) : number (Wave.bytes16 n) = n % 2 ^ 16 := by
  simp [Wave.bytes16]
  omega

theorem number_bytes32 (n : Nat) : number (Wave.bytes32 n) = n % 2 ^ 32 := by
  have hlength : (Wave.bytes16 n).length = 2 := rfl
  rw [Wave.bytes32, number_append, hlength, number_bytes16, number_bytes16]
  omega

theorem signed_bytes16 (x : Int16) :
    signed 16 (number (Wave.bytes16 x.toUInt16.toNat)) = x.toInt := by
  have hlt : x.toUInt16.toNat < 2 ^ 16 := x.toUInt16.toNat_lt
  rw [number_bytes16, Nat.mod_eq_of_lt hlt]
  exact (BitVec.toInt_eq_toNat_cond x.toBitVec).symm

theorem frames_frameBytes (xs : List Int16) :
    frames (Wave.frameBytes xs) = some (xs.map Int16.toInt) := by
  induction xs with
  | nil => rfl
  | cons x xs ih =>
    show (frames (Wave.frameBytes xs)).map
      (signed 16 (number (Wave.bytes16 x.toUInt16.toNat)) :: ·) = _
    rw [ih, signed_bytes16]
    rfl

theorem length_frameBytes (xs : List Int16) : (Wave.frameBytes xs).length = 2 * xs.length := by
  induction xs with
  | nil => rfl
  | cons x xs ih =>
    show (Wave.frameBytes xs).length + 2 = 2 * (xs.length + 1)
    omega

/-- A chunk as the encoder lays it out, which makes bodies of even size only. -/
def layOut (name body : List UInt8) : List UInt8 := name ++ Wave.bytes32 body.length ++ body

theorem length_layOut (hname : name.length = 4) : (layOut name body).length = 8 + body.length := by
  have hsize : (Wave.bytes32 body.length).length = 4 := rfl
  simp only [layOut, List.length_append, hname, hsize]

theorem chunks_layOut (body rest : List UInt8) (hname : name.length = 4)
    (heven : body.length % 2 = 0) (hlt : body.length < 2 ^ 32) :
    chunks (layOut name body ++ rest) = (chunks rest).map (⟨name, body.length, body⟩ :: ·) := by
  have hwidth : (Wave.bytes32 body.length).length = 4 := rfl
  have hlong : 8 ≤ (layOut name body ++ rest).length := by
    rw [List.length_append, length_layOut hname]
    omega
  have hfirst : (layOut name body ++ rest).take 4 = name := by
    simp only [layOut, List.append_assoc]
    exact List.take_left' hname
  have hsize : number (((layOut name body ++ rest).drop 4).take 4) = body.length := by
    simp only [layOut, List.append_assoc]
    rw [List.drop_left' hname, List.take_left' hwidth, number_bytes32, Nat.mod_eq_of_lt hlt]
  have hlater : (layOut name body ++ rest).drop 8 = body ++ rest := by
    rw [layOut, List.append_assoc]
    exact List.drop_left' (by rw [List.length_append, hname, hwidth])
  have hnil : layOut name body ++ rest ≠ [] := by
    intro h
    rw [h] at hlong
    simp at hlong
  rw [chunks, if_neg hnil, if_neg (Nat.not_lt.2 hlong), hfirst]
  dsimp only
  rw [hsize, hlater, if_neg (by rw [List.length_append]; omega), heven, Nat.add_zero,
    List.drop_left' rfl, List.take_left' rfl]

theorem chunks_nil : chunks [] = some [] := by
  rw [chunks, if_pos rfl]

theorem chunks_layOut_last (body : List UInt8) (hname : name.length = 4)
    (heven : body.length % 2 = 0) (hlt : body.length < 2 ^ 32) :
    chunks (layOut name body) = some [⟨name, body.length, body⟩] := by
  have h := chunks_layOut body [] hname heven hlt
  rw [List.append_nil, chunks_nil] at h
  exact h

end Fields

section Encoding

variable {w : Wave}

def body (w : Wave) : List UInt8 :=
  wave ++ (layOut fmt (Wave.format w.rate) ++ layOut data (Wave.frameBytes w.frames))

theorem length_body (w : Wave) : (body w).length = 36 + 2 * w.frames.length := by
  rw [body, List.length_append, List.length_append, length_layOut rfl, length_layOut rfl,
    length_frameBytes]
  show 4 + (8 + 16 + (8 + 2 * w.frames.length)) = 36 + 2 * w.frames.length
  omega

theorem encode_eq (w : Wave) : w.encode = layOut riff (body w) := by
  have hheader : Wave.header w.rate (2 * w.frames.length) =
      riff ++ Wave.bytes32 (36 + 2 * w.frames.length) ++ wave ++
        (layOut fmt (Wave.format w.rate)) ++ (data ++ Wave.bytes32 (2 * w.frames.length)) := by
    with_unfolding_all rfl
  rw [Wave.encode, hheader, layOut, layOut, length_body, body, layOut, layOut, length_frameBytes]
  simp only [List.append_assoc]

theorem length_encode (w : Wave) : w.encode.length = 44 + 2 * w.frames.length := by
  rw [encode_eq, length_layOut rfl, length_body]
  omega

theorem chunks_body (hsize : 36 + 2 * w.frames.length < 2 ^ 32) :
    chunks ((body w).drop 4) = some [⟨fmt, 16, Wave.format w.rate⟩,
      ⟨data, 2 * w.frames.length, Wave.frameBytes w.frames⟩] := by
  have hformat : (Wave.format w.rate).length = 16 := rfl
  have hframes : (Wave.frameBytes w.frames).length = 2 * w.frames.length := length_frameBytes _
  have hdrop : (body w).drop 4 = _ := List.drop_left' rfl
  rw [hdrop, chunks_layOut _ _ rfl (by omega) (by omega),
    chunks_layOut_last _ rfl (by omega) (by omega), hformat, hframes]
  rfl

theorem fields_format {rate : Nat} (hrate : 2 * rate < 2 ^ 32) :
    field (Wave.format rate) 0 2 = 1 ∧ field (Wave.format rate) 2 2 = 1 ∧
      field (Wave.format rate) 4 4 = rate ∧ field (Wave.format rate) 8 4 = 2 * rate ∧
      field (Wave.format rate) 12 2 = 2 ∧ field (Wave.format rate) 14 2 = 16 := by
  refine ⟨rfl, rfl, ?_, ?_, rfl, rfl⟩
  · show number (Wave.bytes32 rate) = rate
    rw [number_bytes32, Nat.mod_eq_of_lt (by omega)]
  · show number (Wave.bytes32 (2 * rate)) = 2 * rate
    rw [number_bytes32, Nat.mod_eq_of_lt hrate]

/-- What a reader gets from a file that its header holds. -/
def contents (w : Wave) : Contents where
  size := w.encode.length - 8
  format := 1
  channels := 1
  rate := w.rate
  byteRate := 2 * w.rate
  blockAlign := 2
  bits := 16
  dataSize := 2 * w.frames.length
  frames := w.frames.map Int16.toInt

theorem read_encode (hrate : 2 * w.rate < 2 ^ 32) (hsize : 36 + 2 * w.frames.length < 2 ^ 32) :
    read w.encode = some (contents w) := by
  have hlength := length_body w
  have hwhole : chunks w.encode = some [⟨riff, (body w).length, body w⟩] := by
    rw [encode_eq]
    exact chunks_layOut_last _ rfl (by omega) (by omega)
  have hword : (body w).take 4 = wave := List.take_left' rfl
  have hparts := chunks_body hsize
  have hfmt (about frames : List UInt8) (n : Nat) :
      find? fmt [⟨fmt, 16, about⟩, ⟨data, n, frames⟩] = some ⟨fmt, 16, about⟩ := rfl
  have hdata (about frames : List UInt8) (n : Nat) :
      find? data [⟨fmt, 16, about⟩, ⟨data, n, frames⟩] = some ⟨data, n, frames⟩ := rfl
  obtain ⟨hcoding, hchannels, hper, hbytes, halign, hbits⟩ := fields_format hrate
  unfold read
  rw [hwhole]
  simp only [Option.bind_eq_bind, Option.bind_some, hword, hparts, hfmt, hdata, frames_frameBytes,
    hcoding, hchannels, hper, hbytes, halign, hbits]
  rw [contents, encode_eq, length_layOut rfl, Nat.add_sub_cancel_left]
  rfl

end Encoding

end Riff

end Silbo
