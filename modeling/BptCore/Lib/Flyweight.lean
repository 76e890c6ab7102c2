import BptCore.Lib.FixedCodec
import Mathlib.Tactic.Positivity
import Mathlib.Tactic.Zify

/-!
# Flyweights over a buffer

Generated decoders of binary messages lay a window over a buffer and read fields at the offsets of
their schema. Some of their operations check the buffer's length and throw, others do not check.

* **`Flyweights`** — the operations of such a generator, **`Flyweights.Documented`** what they are
  known to do.
* **`Safe`** — a computation that neither reads past the end nor throws, with a rule for each
  operation.
* **`Flyweights.reference`** — operations that are as documented.
* **`Write`**, **`putAll`** — an encoder's fields, each put where the schema has it;
  **`slice_putAll`** reads a field back, whatever the order of the writes.
-/

universe u v

namespace Flyweight

inductive Fault where
  /-- A read at an offset that the buffer does not have. -/
  | pastEnd
  | thrown
  deriving DecidableEq, Repr

/-- The message header, without the schema id. -/
structure Header where
  blockLength : Nat
  templateId : Nat
  version : Nat
  deriving DecidableEq, Repr

def headerLength : Nat := 8

/-- A repeating group: the length of an entry, the number of entries, and the position of the next
one. -/
structure Group where
  blockLength : Nat
  count : Nat
  position : Nat
  deriving DecidableEq, Repr

/-- The block length and the number of entries, ahead of a group. -/
def dimensionsLength : Nat := 4

structure Flyweights where
  /-- The header at the start of the buffer, wrapped and read. -/
  header : List UInt8 → Except Fault Header
  /-- Wraps a message; the result is the position behind its block. -/
  wrapForDecode : List UInt8 → (offset blockLength version : Nat) → Except Fault Nat
  /-- The bytes of a fixed field. -/
  field : List UInt8 → (offset width : Nat) → Except Fault (List UInt8)
  /-- Wraps the group at a position. -/
  group : List UInt8 → (position : Nat) → Except Fault Group
  /-- Moves on to an entry that is there: it begins where the group's position was. -/
  next : List UInt8 → Group → Except Fault Group

/-- The number in the `width` bytes at `offset`, lowest byte first. -/
def uintAt (buf : List UInt8) (offset width : Nat) : Nat :=
  FixedCodec.ofBytes ((buf.drop offset).take width)

def headerAt (buf : List UInt8) : Header :=
  { blockLength := uintAt buf 0 2, templateId := uintAt buf 2 2, version := uintAt buf 6 2 }

def groupAt (buf : List UInt8) (position : Nat) : Group :=
  { blockLength := uintAt buf position 2, count := uintAt buf (position + 2) 2
    position := position + dimensionsLength }

def Group.advance (g : Group) : Group := { g with position := g.position + g.blockLength }

@[simp] theorem Group.position_advance (g : Group) :
    g.advance.position = g.position + g.blockLength := rfl

@[simp] theorem Group.blockLength_advance (g : Group) : g.advance.blockLength = g.blockLength := rfl

/-- A message is wrapped where its block fits, a field is read without a check, and a group throws
when its dimensions or its next entry would pass the end. -/
structure Flyweights.Documented (fw : Flyweights) : Prop where
  header : ∀ buf : List UInt8, headerLength ≤ buf.length → fw.header buf = .ok (headerAt buf)
  wrapForDecode : ∀ (buf : List UInt8) offset blockLength version,
    offset + blockLength ≤ buf.length →
      fw.wrapForDecode buf offset blockLength version = .ok (offset + blockLength)
  field : ∀ (buf : List UInt8) offset width, offset + width ≤ buf.length →
    fw.field buf offset width = .ok ((buf.drop offset).take width)
  field_pastEnd : ∀ (buf : List UInt8) offset width, buf.length < offset + width →
    fw.field buf offset width = .error .pastEnd
  group : ∀ (buf : List UInt8) position, position + dimensionsLength ≤ buf.length →
    fw.group buf position = .ok (groupAt buf position)
  group_throws : ∀ (buf : List UInt8) position, buf.length < position + dimensionsLength →
    fw.group buf position = .error .thrown
  next : ∀ (buf : List UInt8) (g : Group), g.position + g.blockLength ≤ buf.length →
    fw.next buf g = .ok g.advance
  next_throws : ∀ (buf : List UInt8) (g : Group), buf.length < g.position + g.blockLength →
    fw.next buf g = .error .thrown

/-! ## Safe computations -/

variable {α : Type u} {β : Type v}

def Safe (x : Except Fault α) : Prop := ∃ a, x = .ok a

theorem safe_ok (a : α) : Safe (.ok a : Except Fault α) := ⟨a, rfl⟩

theorem not_safe_error (e : Fault) : ¬ Safe (.error e : Except Fault α) := by
  rintro ⟨a, h⟩
  cases h

/-- What follows on a step that is safe under the condition `p`, and yields `a` then. -/
theorem safe_bind_iff {x : Except Fault α} {a : α} {p : Prop} (hok : p → x = .ok a)
    (herror : ¬ p → ∃ e, x = .error e) (f : α → Except Fault β) :
    Safe (x.bind f) ↔ p ∧ Safe (f a) := by
  by_cases hp : p
  · rw [hok hp]
    exact (and_iff_right hp).symm
  · obtain ⟨e, he⟩ := herror hp
    rw [he]
    exact iff_of_false (not_safe_error e) fun h => hp h.1

theorem bind_eq_ok {x : Except Fault α} {f : α → Except Fault β} {b : β} (h : x.bind f = .ok b) :
    ∃ a, x = .ok a ∧ f a = .ok b := by
  cases x with
  | error e => cases h
  | ok a => exact ⟨a, rfl, h⟩

theorem map_eq_ok {x : Except Fault α} {f : α → β} {b : β} (h : x.map f = .ok b) :
    ∃ a, x = .ok a ∧ f a = b := by
  cases x with
  | error e => cases h
  | ok a =>
    cases h
    exact ⟨a, rfl, rfl⟩

theorem safe_map_iff (f : α → β) (x : Except Fault α) : Safe (x.map f) ↔ Safe x := by
  cases x with
  | error e => exact iff_of_false (not_safe_error e) (not_safe_error e)
  | ok a => exact iff_of_true (safe_ok _) (safe_ok a)

namespace Flyweights

variable (fw : Flyweights)

/-- A field that is a number. -/
def uint (buf : List UInt8) (offset width : Nat) : Except Fault Nat :=
  (fw.field buf offset width).map FixedCodec.ofBytes

namespace Documented

variable {fw : Flyweights} (h : fw.Documented) (buf : List UInt8)

include h

theorem safe_uint_bind (offset width : Nat) (f : Nat → Except Fault β) :
    Safe ((fw.uint buf offset width).bind f) ↔
      offset + width ≤ buf.length ∧ Safe (f (uintAt buf offset width)) := by
  refine safe_bind_iff (fun hle => ?_) (fun hlt => ?_) f
  · rw [uint, h.field buf offset width hle]
    rfl
  · rw [uint, h.field_pastEnd buf offset width (Nat.not_le.mp hlt)]
    exact ⟨_, rfl⟩

theorem safe_group_bind (position : Nat) (f : Group → Except Fault β) :
    Safe ((fw.group buf position).bind f) ↔
      position + dimensionsLength ≤ buf.length ∧ Safe (f (groupAt buf position)) :=
  safe_bind_iff (h.group buf position)
    (fun hlt => ⟨_, h.group_throws buf position (Nat.not_le.mp hlt)⟩) f

theorem safe_next_bind (g : Group) (f : Group → Except Fault β) :
    Safe ((fw.next buf g).bind f) ↔
      g.position + g.blockLength ≤ buf.length ∧ Safe (f g.advance) :=
  safe_bind_iff (h.next buf g) (fun hlt => ⟨_, h.next_throws buf g (Nat.not_le.mp hlt)⟩) f

end Documented

/-! ## Operations as documented -/

def reference : Flyweights where
  header buf := if headerLength ≤ buf.length then .ok (headerAt buf) else .error .thrown
  wrapForDecode buf offset blockLength _ :=
    if offset + blockLength ≤ buf.length then .ok (offset + blockLength) else .error .thrown
  field buf offset width :=
    if offset + width ≤ buf.length then .ok ((buf.drop offset).take width) else .error .pastEnd
  group buf position :=
    if position + dimensionsLength ≤ buf.length then .ok (groupAt buf position) else .error .thrown
  next buf g :=
    if g.position + g.blockLength ≤ buf.length then .ok g.advance else .error .thrown

theorem documented_reference : reference.Documented where
  header _ hle := if_pos hle
  wrapForDecode _ _ _ _ hle := if_pos hle
  field _ _ _ hle := if_pos hle
  field_pastEnd _ _ _ hlt := if_neg (Nat.not_le.mpr hlt)
  group _ _ hle := if_pos hle
  group_throws _ _ hlt := if_neg (Nat.not_le.mpr hlt)
  next _ _ hle := if_pos hle
  next_throws _ _ hlt := if_neg (Nat.not_le.mpr hlt)

end Flyweights

/-! ## Writing -/

/-- A range of a buffer. -/
structure Field where
  offset : Nat
  width : Nat
  deriving DecidableEq, Repr

namespace Field

/-- The first offset behind the field. -/
def behind (f : Field) : Nat := f.offset + f.width

def Disjoint (f g : Field) : Prop := f.behind ≤ g.offset ∨ g.behind ≤ f.offset

instance (f g : Field) : Decidable (f.Disjoint g) := inferInstanceAs (Decidable (_ ∨ _))

theorem Disjoint.symm {f g : Field} (h : f.Disjoint g) : g.Disjoint f := Or.symm h

end Field

/-- The bytes of a field. -/
def slice (buf : List UInt8) (f : Field) : List UInt8 := (buf.drop f.offset).take f.width

/-- A field and what is put there, as many bytes as the field has. -/
structure Write where
  field : Field
  bytes : FixedCodec.ByteArr field.width

/-- A number, lowest byte first; what does not fit is cut off. -/
def Write.uint (offset width n : Nat) : Write where
  field := ⟨offset, width⟩
  bytes := ⟨FixedCodec.toBytes width n, FixedCodec.length_toBytes width n⟩

@[simp] theorem Write.field_uint (offset width n : Nat) :
    (Write.uint offset width n).field = ⟨offset, width⟩ := rfl

def put (buf : List UInt8) (w : Write) : List UInt8 :=
  buf.take w.field.offset ++ w.bytes.1 ++ buf.drop w.field.behind

def putAll (buf : List UInt8) (ws : List Write) : List UInt8 := ws.foldl put buf

@[simp] theorem putAll_nil (buf : List UInt8) : putAll buf [] = buf := rfl

@[simp] theorem putAll_cons (buf : List UInt8) (w : Write) (ws : List Write) :
    putAll buf (w :: ws) = putAll (put buf w) ws := rfl

theorem getElem?_slice (buf : List UInt8) (f : Field) (i : Nat) :
    (slice buf f)[i]? = if i < f.width then buf[f.offset + i]? else none := by
  rw [slice, List.getElem?_take, List.getElem?_drop]

theorem slice_congr {buf buf' : List UInt8} {f : Field}
    (h : ∀ i, f.offset ≤ i → i < f.behind → buf[i]? = buf'[i]?) : slice buf f = slice buf' f := by
  refine List.ext_getElem? fun i => ?_
  rw [getElem?_slice, getElem?_slice]
  split
  next hi => exact h _ (Nat.le_add_right _ _) (Nat.add_lt_add_left hi _)
  next => rfl

/-- The beginning of a buffer, as far as a field reaches, is all the field is read from. -/
theorem slice_take {n : Nat} {f : Field} (hf : f.behind ≤ n) (buf : List UInt8) :
    slice (buf.take n) f = slice buf f :=
  slice_congr fun _ _ hi => List.getElem?_take_of_lt (Nat.lt_of_lt_of_le hi hf)

section Put

variable {buf : List UInt8} {w : Write} {ws : List Write} {f : Field}

theorem length_put (hw : w.field.behind ≤ buf.length) : (put buf w).length = buf.length := by
  have hbytes := w.bytes.2
  unfold Field.behind at hw
  simp only [put, List.length_append, List.length_take, List.length_drop, Field.behind]
  omega

/-- A byte of the buffer after the write. -/
theorem getElem?_put (hw : w.field.behind ≤ buf.length) (i : Nat) :
    (put buf w)[i]? =
      if w.field.offset ≤ i ∧ i < w.field.behind then w.bytes.1[i - w.field.offset]?
      else buf[i]? := by
  have hbytes := w.bytes.2
  have htake : (buf.take w.field.offset).length = w.field.offset := by
    unfold Field.behind at hw
    rw [List.length_take]
    omega
  unfold Field.behind at hw ⊢
  rw [put, List.append_assoc, List.getElem?_append, htake]
  by_cases hbefore : i < w.field.offset
  · rw [if_pos hbefore, if_neg (by omega), List.getElem?_take_of_lt hbefore]
  · rw [if_neg hbefore, List.getElem?_append, hbytes]
    by_cases hinside : i < w.field.offset + w.field.width
    · rw [if_pos (by omega), if_pos (by omega)]
    · rw [if_neg (by omega), if_neg (by omega), List.getElem?_drop, Field.behind]
      congr 1
      omega

theorem slice_put_self (hw : w.field.behind ≤ buf.length) :
    slice (put buf w) w.field = w.bytes.1 := by
  refine List.ext_getElem? fun i => ?_
  have hbytes := w.bytes.2
  rw [getElem?_slice, getElem?_put hw, Nat.add_sub_cancel_left]
  unfold Field.behind
  by_cases hi : i < w.field.width
  · rw [if_pos hi, if_pos (by omega)]
  · rw [if_neg hi, List.getElem?_eq_none (by omega)]

theorem slice_put_of_disjoint (hw : w.field.behind ≤ buf.length) (hdisj : f.Disjoint w.field) :
    slice (put buf w) f = slice buf f := by
  refine slice_congr fun i hle hlt => ?_
  rw [getElem?_put hw, if_neg]
  rintro ⟨hge, hbehind⟩
  rcases hdisj with h | h
  · exact absurd hlt (by omega)
  · exact absurd hle (by omega)

theorem length_putAll (hws : ∀ w ∈ ws, w.field.behind ≤ buf.length) :
    (putAll buf ws).length = buf.length := by
  induction ws generalizing buf with
  | nil => rfl
  | cons w ws ih =>
    have hlen := length_put (hws w List.mem_cons_self)
    rw [putAll_cons, ih fun v hv => hlen.symm ▸ hws v (List.mem_cons_of_mem w hv), hlen]

/-- **Frame.** A field that no write touches is as it was. -/
theorem slice_putAll_of_disjoint (hws : ∀ w ∈ ws, w.field.behind ≤ buf.length)
    (hdisj : ∀ w ∈ ws, f.Disjoint w.field) : slice (putAll buf ws) f = slice buf f := by
  induction ws generalizing buf with
  | nil => rfl
  | cons w ws ih =>
    have hw := hws w List.mem_cons_self
    have hrest : slice (putAll (put buf w) ws) f = slice (put buf w) f :=
      ih (fun v hv => (length_put hw).symm ▸ hws v (List.mem_cons_of_mem w hv))
        (fun v hv => hdisj v (List.mem_cons_of_mem w hv))
    rw [putAll_cons, hrest, slice_put_of_disjoint hw (hdisj w List.mem_cons_self)]

/-- **Reading back.** Fields that do not overlap hold what was written to them. -/
theorem slice_putAll (hws : ∀ w ∈ ws, w.field.behind ≤ buf.length)
    (hdisj : (ws.map Write.field).Pairwise Field.Disjoint) (hw : w ∈ ws) :
    slice (putAll buf ws) w.field = w.bytes.1 := by
  induction ws generalizing buf with
  | nil => cases hw
  | cons v ws ih =>
    rw [List.map_cons, List.pairwise_cons] at hdisj
    have hv := hws v List.mem_cons_self
    have hrest : ∀ u ∈ ws, u.field.behind ≤ (put buf v).length := fun u hu =>
      (length_put hv).symm ▸ hws u (List.mem_cons_of_mem v hu)
    rw [putAll_cons]
    rcases List.mem_cons.mp hw with rfl | hw
    · -- the later writes leave the field alone
      have hapart : ∀ u ∈ ws, w.field.Disjoint u.field := fun u hu =>
        hdisj.1 u.field (List.mem_map_of_mem hu)
      rw [slice_putAll_of_disjoint hrest hapart, slice_put_self hv]
    · exact ih hrest hdisj.2 hw

/-- Writes that cover the buffer's beginning leave nothing there of what it held. -/
theorem take_putAll_eq {buf' : List UInt8} {n : Nat} (hn : n ≤ buf.length) (hn' : n ≤ buf'.length)
    (hws : ∀ w ∈ ws, w.field.behind ≤ n)
    (hdisj : (ws.map Write.field).Pairwise Field.Disjoint)
    (hcover : ∀ i < n, ∃ w ∈ ws, w.field.offset ≤ i ∧ i < w.field.behind) :
    (putAll buf ws).take n = (putAll buf' ws).take n := by
  refine List.ext_getElem? fun i => ?_
  by_cases hi : i < n
  · rw [List.getElem?_take_of_lt hi, List.getElem?_take_of_lt hi]
    obtain ⟨w, hw, hle, hlt⟩ := hcover i hi
    -- byte `i` is a byte of the field that covers it
    have hbyte : ∀ b : List UInt8, n ≤ b.length →
        (putAll b ws)[i]? = w.bytes.1[i - w.field.offset]? := by
      intro b hb
      rw [← slice_putAll (fun v hv => Nat.le_trans (hws v hv) hb) hdisj hw, getElem?_slice]
      unfold Field.behind at hlt
      rw [if_pos (by omega), Nat.add_sub_cancel' hle]
    rw [hbyte buf hn, hbyte buf' hn']
  · rw [List.getElem?_take, List.getElem?_take, if_neg hi, if_neg hi]

end Put

/-! ## Messages without gaps -/

/-- The writes follow one another from offset `n` up to `m`. -/
def Tiles : (n m : Nat) → List Write → Prop
  | n, m, [] => n = m
  | n, m, w :: ws => w.field.offset = n ∧ Tiles w.field.behind m ws

namespace Tiles

variable {n m k : Nat} {ws vs : List Write}

theorem append (h : Tiles n k ws) (h' : Tiles k m vs) : Tiles n m (ws ++ vs) := by
  induction ws generalizing n with
  | nil =>
    obtain rfl : n = k := h
    exact h'
  | cons w ws ih => exact ⟨h.1, ih h.2⟩

theorem le (h : Tiles n m ws) : n ≤ m := by
  induction ws generalizing n with
  | nil => exact Nat.le_of_eq h
  | cons w ws ih =>
    have hrest := ih h.2
    have hfirst := h.1
    unfold Field.behind at hrest
    omega

theorem offset_ge (h : Tiles n m ws) : ∀ w ∈ ws, n ≤ w.field.offset := by
  induction ws generalizing n with
  | nil => exact fun w hw => absurd hw List.not_mem_nil
  | cons v ws ih =>
    intro w hw
    rcases List.mem_cons.mp hw with rfl | hw
    · exact Nat.le_of_eq h.1.symm
    · have hrest := ih h.2 w hw
      have hfirst := h.1
      unfold Field.behind at hrest
      omega

theorem behind_le (h : Tiles n m ws) : ∀ w ∈ ws, w.field.behind ≤ m := by
  induction ws generalizing n with
  | nil => exact fun w hw => absurd hw List.not_mem_nil
  | cons v ws ih =>
    intro w hw
    rcases List.mem_cons.mp hw with rfl | hw
    · exact h.2.le
    · exact ih h.2 w hw

theorem pairwise_disjoint (h : Tiles n m ws) : (ws.map Write.field).Pairwise Field.Disjoint := by
  induction ws generalizing n with
  | nil => exact List.Pairwise.nil
  | cons w ws ih =>
    refine List.pairwise_cons.mpr ⟨fun f hf => ?_, ih h.2⟩
    obtain ⟨v, hv, rfl⟩ := List.mem_map.mp hf
    exact .inl (h.2.offset_ge v hv)

theorem cover (h : Tiles n m ws) {i : Nat} (hle : n ≤ i) (hlt : i < m) :
    ∃ w ∈ ws, w.field.offset ≤ i ∧ i < w.field.behind := by
  induction ws generalizing n with
  | nil =>
    obtain rfl : n = m := h
    exact absurd hlt (Nat.not_lt.mpr hle)
  | cons w ws ih =>
    by_cases hi : i < w.field.behind
    · exact ⟨w, List.mem_cons_self, h.1.symm ▸ hle, hi⟩
    · obtain ⟨v, hv, hin⟩ := ih h.2 (Nat.not_lt.mp hi)
      exact ⟨v, List.mem_cons_of_mem w hv, hin⟩

end Tiles

/-! ## Payloads -/

/-- The buffer has all of these fields, with these bytes in them. -/
def Holds (buf : List UInt8) (ws : List Write) : Prop :=
  ∀ w ∈ ws, w.field.behind ≤ buf.length ∧ slice buf w.field = w.bytes.1

/-- What was written into a buffer is in its beginning, when it is cut no shorter than the fields. -/
theorem holds_take_putAll {buf : List UInt8} {ws : List Write} {n : Nat} (hn : n ≤ buf.length)
    (hws : ∀ w ∈ ws, w.field.behind ≤ n)
    (hdisj : (ws.map Write.field).Pairwise Field.Disjoint) :
    Holds ((putAll buf ws).take n) ws := by
  intro w hw
  have hfit : ∀ v ∈ ws, v.field.behind ≤ buf.length := fun v hv => Nat.le_trans (hws v hv) hn
  refine ⟨?_, ?_⟩
  · rw [List.length_take, length_putAll hfit, Nat.min_eq_left hn]
    exact hws w hw
  · rw [slice_take (hws w hw), slice_putAll hfit hdisj hw]

namespace Holds

variable {buf : List UInt8} {ws vs : List Write}

theorem mono (h : Holds buf ws) (hsub : ∀ v ∈ vs, v ∈ ws) : Holds buf vs := fun v hv =>
  h v (hsub v hv)

theorem left (h : Holds buf (ws ++ vs)) : Holds buf ws :=
  h.mono fun _ => List.mem_append_left vs

theorem right (h : Holds buf (ws ++ vs)) : Holds buf vs :=
  h.mono fun _ => List.mem_append_right ws

theorem tail {w : Write} (h : Holds buf (w :: ws)) : Holds buf ws :=
  h.mono fun _ => List.mem_cons_of_mem w

variable {offset width n : Nat}

theorem fits (h : Holds buf ws) (hw : Write.uint offset width n ∈ ws) :
    offset + width ≤ buf.length := (h _ hw).1

/-- A number is read where it was written. -/
theorem uintAt (h : Holds buf ws) (hw : Write.uint offset width n ∈ ws) (hn : n < 256 ^ width) :
    uintAt buf offset width = n := by
  have hslice := (h _ hw).2
  show FixedCodec.ofBytes (slice buf ⟨offset, width⟩) = n
  rw [← Write.field_uint offset width n, hslice]
  exact FixedCodec.ofBytes_toBytes hn

theorem uint {fw : Flyweights} (hfw : fw.Documented) (h : Holds buf ws)
    (hw : Write.uint offset width n ∈ ws) (hn : n < 256 ^ width) :
    fw.uint buf offset width = .ok n := by
  rw [Flyweights.uint, hfw.field buf _ _ (h.fits hw)]
  exact congrArg Except.ok (h.uintAt hw hn)

end Holds

/-! ## Signed numbers and texts -/

/-- A signed number, in two's complement. -/
def Write.int (offset width : Nat) (n : Int) : Write :=
  .uint offset width (n % 256 ^ width).toNat

theorem length_take_append_zeros (bs : List UInt8) (width : Nat) :
    (bs.take width ++ List.replicate (width - bs.length) 0).length = width := by
  rw [List.length_append, List.length_take, List.length_replicate]
  omega

/-- Characters, the rest of the field filled with zeros. What does not fit is cut off. -/
def Write.chars (offset width : Nat) (bs : List UInt8) : Write where
  field := ⟨offset, width⟩
  bytes := ⟨bs.take width ++ List.replicate (width - bs.length) 0,
    length_take_append_zeros bs width⟩

@[simp] theorem Write.field_int (offset width : Nat) (n : Int) :
    (Write.int offset width n).field = ⟨offset, width⟩ := rfl

@[simp] theorem Write.field_chars (offset width : Nat) (bs : List UInt8) :
    (Write.chars offset width bs).field = ⟨offset, width⟩ := rfl

/-- The number of `width` bytes as a signed one. -/
def toSigned (width n : Nat) : Int := if 2 * n < 256 ^ width then n else n - 256 ^ width

/-- What a signed number of `width` bytes can be. -/
def SignedFits (width : Nat) (n : Int) : Prop := -256 ^ width ≤ 2 * n ∧ 2 * n < 256 ^ width

instance (width : Nat) (n : Int) : Decidable (SignedFits width n) :=
  inferInstanceAs (Decidable (_ ∧ _))

theorem toNat_emod_lt (width : Nat) (n : Int) : (n % 256 ^ width).toNat < 256 ^ width := by
  have hpos : (0 : Int) < 256 ^ width := by positivity
  have hlt := Int.emod_lt_of_pos n hpos
  have hnonneg := Int.emod_nonneg n hpos.ne'
  zify
  rwa [Int.toNat_of_nonneg hnonneg]

theorem toSigned_emod {width : Nat} {n : Int} (h : SignedFits width n) :
    toSigned width (n % 256 ^ width).toNat = n := by
  have hpos : (0 : Int) < 256 ^ width := by positivity
  have hnat : (((n % 256 ^ width).toNat : Nat) : Int) = n % 256 ^ width :=
    Int.toNat_of_nonneg (Int.emod_nonneg n hpos.ne')
  obtain ⟨hlo, hhi⟩ := h
  rcases lt_or_ge n 0 with hneg | hnonneg
  · -- a negative number stands a whole turn higher
    have hturn : n % 256 ^ width = n + 256 ^ width := by
      rw [← Int.add_emod_right, Int.emod_eq_of_lt (by omega) (by omega)]
    rw [toSigned, if_neg (by zify; rw [hnat, hturn]; omega), hnat, hturn, add_sub_cancel_right]
  · have hsame : n % 256 ^ width = n := Int.emod_eq_of_lt hnonneg (by omega)
    rw [toSigned, if_pos (by zify; rw [hnat, hsame]; omega), hnat, hsame]

/-- The characters of a field up to the first null. -/
def charsOf (bs : List UInt8) : List UInt8 := bs.takeWhile (· ≠ 0)

theorem charsOf_append_zeros {bs : List UInt8} (h : 0 ∉ bs) (n : Nat) :
    charsOf (bs ++ List.replicate n 0) = bs := by
  have hall : ∀ b ∈ bs, (fun b : UInt8 => decide (b ≠ 0)) b = true := fun b hb =>
    decide_eq_true fun hzero => h (hzero ▸ hb)
  rw [charsOf, List.takeWhile_append_of_pos hall]
  cases n with
  | zero => simp
  | succ n => simp [List.replicate_succ]

namespace Holds

variable {buf : List UInt8} {ws : List Write} {offset width : Nat}

theorem signed (h : Holds buf ws) {n : Int} (hw : Write.int offset width n ∈ ws)
    (hn : SignedFits width n) : toSigned width (Flyweight.uintAt buf offset width) = n := by
  rw [h.uintAt hw (toNat_emod_lt width n), toSigned_emod hn]

/-- Characters are read as they were written, as far as they fit. -/
theorem chars (h : Holds buf ws) {bs : List UInt8} (hw : Write.chars offset width bs ∈ ws)
    (hnull : 0 ∉ bs) : charsOf (slice buf ⟨offset, width⟩) = bs.take width := by
  have hslice : slice buf ⟨offset, width⟩ =
      bs.take width ++ List.replicate (width - bs.length) 0 := (h _ hw).2
  rw [hslice, charsOf_append_zeros fun hmem => hnull (List.mem_of_mem_take hmem)]

end Holds

/-! ## Headers and groups -/

/-- `wrapAndApplyHeader`: the header of a message, at the start of the buffer. -/
def headerWrites (blockLength templateId schemaId version : Nat) : List Write :=
  [.uint 0 2 blockLength, .uint 2 2 templateId, .uint 4 2 schemaId, .uint 6 2 version]

theorem tiles_headerWrites (blockLength templateId schemaId version : Nat) :
    Tiles 0 headerLength (headerWrites blockLength templateId schemaId version) :=
  ⟨rfl, rfl, rfl, rfl, rfl⟩

theorem Holds.headerAt {buf : List UInt8} {blockLength templateId schemaId version : Nat}
    (h : Holds buf (headerWrites blockLength templateId schemaId version))
    (hblockLength : blockLength < 2 ^ 16) (htemplateId : templateId < 2 ^ 16)
    (hversion : version < 2 ^ 16) :
    headerAt buf = ⟨blockLength, templateId, version⟩ := by
  rw [Flyweight.headerAt, h.uintAt (by simp [headerWrites]) hblockLength,
    h.uintAt (by simp [headerWrites]) htemplateId, h.uintAt (by simp [headerWrites]) hversion]

/-- The dimensions of a group of `count` entries. -/
def dimensionWrites (position blockLength count : Nat) : List Write :=
  [.uint position 2 blockLength, .uint (position + 2) 2 count]

theorem tiles_dimensionWrites (position blockLength count : Nat) :
    Tiles position (position + dimensionsLength) (dimensionWrites position blockLength count) :=
  ⟨rfl, rfl, rfl⟩

theorem Holds.groupAt {buf : List UInt8} {position blockLength count : Nat}
    (h : Holds buf (dimensionWrites position blockLength count))
    (hblockLength : blockLength < 2 ^ 16) (hcount : count < 2 ^ 16) :
    groupAt buf position = ⟨blockLength, count, position + dimensionsLength⟩ := by
  rw [Flyweight.groupAt, h.uintAt (by simp [dimensionWrites]) hblockLength,
    h.uintAt (by simp [dimensionWrites]) hcount]

/-! ### The entries of a group -/

section Entries

variable {β : Type v} (length : Nat) (entry : Nat → α → List Write)

/-- An entry for each element, one behind the other. -/
def entryWrites : (position : Nat) → List α → List Write
  | _, [] => []
  | position, a :: as => entry position a ++ entryWrites (position + length) as

/-- The dimensions and the entries. -/
def groupWrites (position : Nat) (as : List α) : List Write :=
  dimensionWrites position length as.length ++
    entryWrites length entry (position + dimensionsLength) as

/-- The bytes of a group of `n` entries. -/
def groupLength (n : Nat) : Nat := dimensionsLength + n * length

variable {length entry}

theorem tiles_entryWrites (h : ∀ position a, Tiles position (position + length) (entry position a))
    (position : Nat) (as : List α) :
    Tiles position (position + as.length * length) (entryWrites length entry position as) := by
  induction as generalizing position with
  | nil => exact (Nat.zero_mul length).symm ▸ rfl
  | cons a as ih =>
    have hrest := ih (position + length)
    have hend : position + length + as.length * length =
        position + (a :: as).length * length := by
      rw [List.length_cons, Nat.succ_mul]
      omega
    rw [hend] at hrest
    exact (h position a).append hrest

theorem tiles_groupWrites (h : ∀ position a, Tiles position (position + length) (entry position a))
    (position : Nat) (as : List α) :
    Tiles position (position + groupLength length as.length)
      (groupWrites length entry position as) := by
  have hentries := tiles_entryWrites h (position + dimensionsLength) as
  rw [Nat.add_assoc] at hentries
  exact (tiles_dimensionWrites _ _ _).append hentries

/-- The loop over a group: `next`, and the reading of the entry that begins where the group's
position was. -/
def readEntries (fw : Flyweights) (buf : List UInt8) (read : Nat → Except Fault β) :
    (left : Nat) → Group → Except Fault (Group × List β)
  | 0, g => .ok (g, [])
  | left + 1, g =>
    (fw.next buf g).bind fun g' =>
    (read g.position).bind fun b =>
    (readEntries fw buf read left g').map fun r => (r.1, b :: r.2)

/-- A group and what is read of all its entries, with the position behind it. -/
def readGroup (fw : Flyweights) (buf : List UInt8) (read : Nat → Except Fault β)
    (position : Nat) : Except Fault (Nat × List β) :=
  (fw.group buf position).bind fun g =>
    (readEntries fw buf read g.count g).map fun r => (r.1.position, r.2)

theorem readEntries_eq {fw : Flyweights} (hfw : fw.Documented) {buf : List UInt8}
    {read : Nat → Except Fault β} {f : α → β} {as : List α}
    (hread : ∀ position, ∀ a ∈ as, Holds buf (entry position a) → read position = .ok (f a))
    {g : Group} (hlength : g.blockLength = length)
    (hbuf : g.position + as.length * length ≤ buf.length)
    (h : Holds buf (entryWrites length entry g.position as)) :
    readEntries fw buf read as.length g =
      .ok ({ g with position := g.position + as.length * length }, as.map f) := by
  induction as generalizing g with
  | nil =>
    rw [List.length_nil, Nat.zero_mul]
    rfl
  | cons a as ih =>
    rw [List.length_cons, Nat.succ_mul] at hbuf
    have hadvance : g.advance.position = g.position + length := by
      rw [Group.position_advance, hlength]
    have hnext : fw.next buf g = .ok g.advance := hfw.next buf g (by rw [hlength]; omega)
    have hrest := ih (g := g.advance)
      (fun position b hb => hread position b (List.mem_cons_of_mem a hb)) hlength
      (by rw [hadvance]; omega) (by rw [hadvance]; exact h.right)
    rw [List.length_cons, readEntries, hnext]
    show (read g.position).bind _ = _
    rw [hread g.position a List.mem_cons_self h.left]
    show (readEntries fw buf read as.length g.advance).map _ = _
    rw [hrest, hadvance, Nat.succ_mul, Nat.add_assoc, Nat.add_comm length]
    rfl

theorem readGroup_eq {fw : Flyweights} (hfw : fw.Documented) {buf : List UInt8}
    {read : Nat → Except Fault β} {f : α → β} {as : List α} {position : Nat}
    (hread : ∀ position, ∀ a ∈ as, Holds buf (entry position a) → read position = .ok (f a))
    (hlength : length < 2 ^ 16) (hcount : as.length < 2 ^ 16)
    (hbuf : position + groupLength length as.length ≤ buf.length)
    (h : Holds buf (groupWrites length entry position as)) :
    readGroup fw buf read position = .ok (position + groupLength length as.length, as.map f) := by
  unfold groupLength at hbuf
  have hgroup : fw.group buf position = .ok ⟨length, as.length, position + dimensionsLength⟩ := by
    rw [hfw.group buf position (by omega), h.left.groupAt hlength hcount]
  have hentries := readEntries_eq hfw hread
    (g := ⟨length, as.length, position + dimensionsLength⟩) rfl (by dsimp only; omega) h.right
  rw [readGroup, hgroup]
  show (readEntries fw buf read as.length _).map _ = _
  rw [hentries, groupLength, ← Nat.add_assoc]
  rfl

end Entries

end Flyweight
