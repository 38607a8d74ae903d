import ParaEgox.Wire

/-!
# Cursors — a slice, an offset, and the reader it stands for

A decoder in the source keeps the whole slice and an offset of machine width; its faults tell errors from panics.  A reader
keeps only the bytes still to be read.  `Follows` says that the cursor does what the reader does from the bytes behind its
offset: it returns the same values, and where the reader stops with an error the cursor stops with a benign fault.
-/
namespace Wire

variable {ε φ α β : Type}

structure Cursor where
  bytes : List UInt8
  offset : Nat

namespace Cursor

def start (bytes : List UInt8) : Cursor := ⟨bytes, 0⟩

def rest (c : Cursor) : List UInt8 := c.bytes.drop c.offset

/-- The offset is inside a slice of at most `limit` bytes. -/
structure Inside (limit : Nat) (c : Cursor) : Prop where
  offset_le : c.offset ≤ c.bytes.length
  length_le : c.bytes.length ≤ limit

theorem inside_start {limit : Nat} {bytes : List UInt8} (h : bytes.length ≤ limit) : (start bytes).Inside limit :=
  ⟨Nat.zero_le _, h⟩

theorem length_rest (c : Cursor) : c.rest.length = c.bytes.length - c.offset := List.length_drop

end Cursor

abbrev SliceReader (φ α : Type) := StateT Cursor (Except φ) α

theorem slice_bind_run (x : SliceReader φ α) (f : α → SliceReader φ β) (c : Cursor) :
    (x >>= f) c = Except.bind (x c) fun p => f p.1 p.2 := rfl

def SliceReader.lift (x : Except φ α) : SliceReader φ α := fun c => x.map fun a => (a, c)

def Follows (limit : Nat) (benign : φ → Prop) (x : SliceReader φ α) (y : Reader ε α) : Prop :=
  ∀ c : Cursor, c.Inside limit →
    match y c.rest with
    | .ok (a, rest) => ∃ c', x c = .ok (a, c') ∧ c'.Inside limit ∧ c'.rest = rest
    | .error _ => ∃ fault, x c = .error fault ∧ benign fault

variable {limit : Nat} {benign : φ → Prop}

theorem follows_pure (a : α) : Follows limit benign (pure a) (pure a : Reader ε α) := fun c hc => ⟨c, rfl, hc, rfl⟩

theorem follows_bind_of_yields {x : SliceReader φ α} {y : Reader ε α} {f : α → SliceReader φ β} {g : α → Reader ε β}
    {P : α → Prop} (hx : Follows limit benign x y) (hy : Yields y P)
    (hf : ∀ a, P a → Follows limit benign (f a) (g a)) : Follows limit benign (x >>= f) (y >>= g) := by
  intro c hc
  have hfirst := hx c hc
  rw [bind_run, slice_bind_run]
  cases hread : y c.rest with
  | error e =>
    rw [hread] at hfirst
    obtain ⟨fault, hfault, hbenign⟩ := hfirst
    rw [hfault]
    exact ⟨fault, rfl, hbenign⟩
  | ok p =>
    obtain ⟨a, rest⟩ := p
    rw [hread] at hfirst
    obtain ⟨c', hx', hinside, rfl⟩ := hfirst
    rw [hx']
    exact hf a (hy _ _ _ hread) c' hinside

theorem follows_bind {x : SliceReader φ α} {y : Reader ε α} {f : α → SliceReader φ β} {g : α → Reader ε β}
    (hx : Follows limit benign x y) (hf : ∀ a, Follows limit benign (f a) (g a)) :
    Follows limit benign (x >>= f) (y >>= g) :=
  follows_bind_of_yields (P := fun _ => True) hx (fun _ _ _ _ => trivial) fun a _ => hf a

theorem follows_lift {x : Except φ α} {y : Except ε α} (hok : ∀ a, y = .ok a → x = .ok a)
    (herror : ∀ e, y = .error e → ∃ fault, x = .error fault ∧ benign fault) :
    Follows limit benign (SliceReader.lift x) (Reader.lift y) := by
  intro c hc
  cases hy : y with
  | error e =>
    obtain ⟨fault, hfault, hbenign⟩ := herror e hy
    exact ⟨fault, by rw [SliceReader.lift, hfault]; rfl, hbenign⟩
  | ok a => exact ⟨c, by rw [SliceReader.lift, hok a hy]; rfl, hc, rfl⟩

theorem follows_step {a : α} {f : α → SliceReader φ β} {y : Reader ε β} (hf : Follows limit benign (f a) y) :
    Follows limit benign (SliceReader.lift (.ok a) >>= f) y := hf

theorem follows_take {n : Nat} {short : ε} {x : SliceReader φ {bs : List UInt8 // bs.length = n}}
    (hthere : ∀ c : Cursor, c.Inside limit → (h : c.offset + n ≤ c.bytes.length) →
      x c = .ok (⟨c.rest.take n, by rw [List.length_take, c.length_rest]; omega⟩, { c with offset := c.offset + n }))
    (habsent : ∀ c : Cursor, c.Inside limit → c.bytes.length < c.offset + n →
      ∃ fault, x c = .error fault ∧ benign fault) : Follows limit benign x (Reader.take n short) := by
  intro c hc
  have hlen := c.length_rest
  have hoffset := hc.offset_le
  by_cases h : n ≤ c.rest.length
  · rw [Reader.take, dif_pos h]
    refine ⟨_, hthere c hc (by omega), ⟨by dsimp only; omega, hc.length_le⟩, ?_⟩
    rw [Cursor.rest, Cursor.rest, List.drop_drop]
  · rw [Reader.take, dif_neg h]
    exact habsent c hc (by omega)

theorem follows_finish {trailing : ε} {x : SliceReader φ Unit}
    (hend : ∀ c : Cursor, c.Inside limit → c.offset = c.bytes.length → x c = .ok ((), c))
    (hmore : ∀ c : Cursor, c.Inside limit → c.offset < c.bytes.length → ∃ fault, x c = .error fault ∧ benign fault) :
    Follows limit benign x (Reader.finish trailing) := by
  intro c hc
  have hlen := c.length_rest
  have hoffset := hc.offset_le
  by_cases h : c.rest = []
  · rw [Reader.finish, if_pos h]
    rw [h, List.length_nil] at hlen
    exact ⟨c, hend c hc (by omega), hc, rfl⟩
  · rw [Reader.finish, if_neg h]
    have hpos := List.length_pos_iff.2 h
    exact hmore c hc (by omega)

end Wire
