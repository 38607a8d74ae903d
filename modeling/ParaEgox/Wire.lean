import Mathlib.Algebra.GroupWithZero.Nat
import ParaEgox.Check

/-!
# Wire — byte cursors, and the encodings they read back

A decoder is a sequence of reads from a cursor, each of which may stop with an error.  `Reads` says that a decoder takes
exactly the bytes of one encoding off the front of any input, so decoders compose as their encodings are concatenated.
`Yields` says what holds of every value a decoder returns.  A read of `n` bytes hands them out with their length, so that
what indexes into them carries its own bound.
-/
namespace Wire

variable {ε α β : Type}

abbrev Reader (ε α : Type) := StateT (List UInt8) (Except ε) α

namespace Reader

def lift (x : Except ε α) : Reader ε α := fun bs => x.map fun a => (a, bs)

/-- The next `n` bytes. -/
def take (n : Nat) (short : ε) : Reader ε {bs : List UInt8 // bs.length = n} := fun bs =>
  if h : n ≤ bs.length then .ok (⟨bs.take n, List.length_take_of_le h⟩, bs.drop n) else .error short

def finish (trailing : ε) : Reader ε Unit := fun bs => if bs = [] then .ok ((), bs) else .error trailing

def times : Nat → Reader ε α → Reader ε (List α)
  | 0, _ => pure []
  | n + 1, r => do
    let a ← r
    let rest ← times n r
    pure (a :: rest)

end Reader

open Reader

theorem bind_run (r : Reader ε α) (f : α → Reader ε β) (bs : List UInt8) :
    (r >>= f) bs = Except.bind (r bs) fun p => f p.1 p.2 := rfl

@[simp] theorem bind_reads_ok (r : Reader ε α) (f : α → Reader ε β) (bs rest : List UInt8) (b : β) :
    (r >>= f) bs = .ok (b, rest) ↔ ∃ a mid, r bs = .ok (a, mid) ∧ f a mid = .ok (b, rest) := by
  rw [bind_run]
  cases r bs with
  | error e => simp [Except.bind]
  | ok p => simp [Except.bind, Prod.ext_iff, and_assoc]

@[simp] theorem pure_reads_ok (a b : α) (bs rest : List UInt8) :
    (pure a : Reader ε α) bs = .ok (b, rest) ↔ a = b ∧ bs = rest := by
  change (.ok (a, bs) : Except ε (α × List UInt8)) = .ok (b, rest) ↔ _
  rw [Except.ok.injEq, Prod.mk.injEq]

@[simp] theorem lift_reads_ok (x : Except ε α) (a : α) (bs rest : List UInt8) :
    lift x bs = .ok (a, rest) ↔ x = .ok a ∧ bs = rest := by
  cases x <;> simp [lift, Except.map]

variable {k n offset : Nat} {r : Reader ε α} {f : α → Reader ε β} {e : List UInt8} {a : α} {b : β} {x : Except ε α}
  {fields : List (List UInt8)} {lengths : List Nat} {P : α → Prop}

theorem take_reads_ok {short : ε} {bs rest : List UInt8} {a : {bs : List UInt8 // bs.length = n}}
    (h : take n short bs = .ok (a, rest)) : bs = a.val ++ rest := by
  unfold take at h
  split at h
  · obtain ⟨rfl, rfl⟩ := Prod.mk.inj (Except.ok.inj h)
    exact (List.take_append_drop n bs).symm
  · cases h

/-! ## Encodings read back -/

/-- The decoder takes the bytes `e` off the front of any input and returns `a`. -/
def Reads (r : Reader ε α) (e : List UInt8) (a : α) : Prop := ∀ rest, r (e ++ rest) = .ok (a, rest)

theorem reads_pure (a : α) : Reads (pure a : Reader ε α) [] a := fun _ => rfl

theorem reads_bind {e' : List UInt8} (hr : Reads r e a) (hf : Reads (f a) e' b) : Reads (r >>= f) (e ++ e') b := by
  intro rest
  rw [List.append_assoc, bind_reads_ok]
  exact ⟨a, e' ++ rest, hr _, hf rest⟩

theorem reads_whole (hr : Reads r e a) (hf : Reads (f a) [] b) : Reads (r >>= f) e b := by
  have h := reads_bind hr hf
  rwa [List.append_nil] at h

theorem reads_lift (hx : x = .ok a) : Reads (lift x) [] a :=
  fun rest => (lift_reads_ok x a _ rest).2 ⟨hx, rfl⟩

theorem reads_map (g : α → β) (hr : Reads r e a) : Reads (r >>= fun a => pure (g a)) e (g a) :=
  reads_whole hr (reads_pure (g a))

theorem reads_then {f : α → Except ε β} (hr : Reads r e a)
    (hb : f a = .ok b) : Reads (r >>= fun a => lift (f a)) e b :=
  reads_whole hr (reads_lift hb)

theorem reads_field {es : List (List UInt8)}
    (hr : Reads r e a) (hf : Reads (f a) es.flatten b) : Reads (r >>= f) (e :: es).flatten b :=
  reads_bind hr hf

theorem reads_done (a : α) : Reads (pure a : Reader ε α) ([] : List (List UInt8)).flatten a := reads_pure a

theorem reads_last (hr : Reads r e a) : Reads r [e].flatten a := by
  rwa [List.flatten_cons, List.flatten_nil, List.append_nil]

theorem reads_check (hx : x = .ok a) (hf : Reads (f a) e b) : Reads (lift x >>= f) e b := by
  intro rest
  rw [bind_reads_ok]
  exact ⟨a, e ++ rest, (lift_reads_ok x a _ _).2 ⟨hx, rfl⟩, hf rest⟩

theorem reads_take (bs : List UInt8) (short : ε) : Reads (take bs.length short) bs ⟨bs, rfl⟩ := by
  intro rest
  have hlen : bs.length ≤ (bs ++ rest).length := by simp
  unfold take
  rw [dif_pos hlen]
  simp

theorem reads_take_of_length {bs : List UInt8} (h : bs.length = n) (short : ε) : Reads (take n short) bs ⟨bs, h⟩ := by
  subst h
  exact reads_take bs short

theorem reads_times {enc : α → List UInt8} : ∀ {xs : List α}, (∀ x ∈ xs, Reads r (enc x) x) →
    Reads (times xs.length r) (xs.flatMap enc) xs
  | [], _ => reads_pure []
  | x :: xs, h => by
    have hxs : Reads (times xs.length r) (xs.flatMap enc) xs := reads_times fun y hy => h y (List.mem_cons_of_mem x hy)
    rw [List.flatMap_cons]
    exact reads_bind (h x List.mem_cons_self) (reads_map (x :: ·) hxs)

/-! ## Whole inputs -/

/-- The decoder takes the whole input `e` and returns `a`. -/
def Consumes (r : Reader ε α) (e : List UInt8) (a : α) : Prop := r e = .ok (a, [])

theorem consumes_field {es : List (List UInt8)}
    (hr : Reads r e a) (hf : Consumes (f a) es.flatten b) : Consumes (r >>= f) (e :: es).flatten b := by
  unfold Consumes
  rw [List.flatten_cons, bind_reads_ok]
  exact ⟨a, es.flatten, hr _, hf⟩

theorem consumes_check (hx : x = .ok a) (hf : Consumes (f a) e b) : Consumes (lift x >>= f) e b := by
  unfold Consumes
  rw [bind_reads_ok]
  exact ⟨a, e, (lift_reads_ok x a _ _).2 ⟨hx, rfl⟩, hf⟩

theorem consumes_end {f : Unit → Reader ε β} (trailing : ε) (hf : Consumes (f ()) [] b) :
    Consumes (finish trailing >>= f) ([] : List (List UInt8)).flatten b := by
  unfold Consumes
  rw [bind_reads_ok]
  exact ⟨(), [], rfl, hf⟩

theorem consumes_finish (trailing : ε) (a : α) :
    Consumes (finish trailing >>= fun _ => pure a) ([] : List (List UInt8)).flatten a := rfl

/-! ## Fields at an offset -/

/-- **A field of a record stands where the lengths of the fields before it end.** -/
theorem field_at {x : List UInt8}
    (hl : fields.map List.length = lengths) (hx : fields[k]? = some x) (ho : (lengths.take k).sum = offset) :
    ∃ before rest, fields.flatten = before ++ (x ++ rest) ∧ before.length = offset := by
  obtain ⟨hk, hget⟩ := List.getElem?_eq_some_iff.1 hx
  have hsplit : fields = fields.take k ++ x :: fields.drop (k + 1) := by
    rw [← hget, List.getElem_cons_drop, List.take_append_drop]
  have hlen : (fields.take k).flatten.length = offset := by
    rw [List.length_flatten, ← ho, ← hl, List.map_take]
  refine ⟨(fields.take k).flatten, (fields.drop (k + 1)).flatten, ?_, hlen⟩
  rw [← List.flatten_cons, ← List.flatten_append, ← hsplit]

theorem slice_field {x : List UInt8}
    (hl : fields.map List.length = lengths) (hx : fields[k]? = some x) (ho : (lengths.take k).sum = offset)
    (hn : x.length = n) : (fields.flatten.drop offset).take n = x := by
  obtain ⟨before, rest, hsplit, rfl⟩ := field_at hl hx ho
  rw [hsplit, List.drop_left, ← hn, List.take_left]

theorem byte_field {b : UInt8}
    (hl : fields.map List.length = lengths) (hx : fields[k]? = some [b]) (ho : (lengths.take k).sum = offset) :
    fields.flatten[offset]? = some b := by
  obtain ⟨before, rest, hsplit, rfl⟩ := field_at hl hx ho
  rw [hsplit, List.singleton_append, List.getElem?_append_right (Nat.le_refl _), Nat.sub_self]
  rfl

theorem drop_last_field {l : List (List UInt8)} {last : List UInt8} (h : l.flatten.length = n) :
    (l ++ [last]).flatten.drop n = last := by
  rw [List.flatten_append, List.flatten_singleton, ← h, List.drop_left]

/-! ## What a decoder returns -/

/-- Every value the decoder returns satisfies `P`. -/
def Yields (r : Reader ε α) (P : α → Prop) : Prop := ∀ bs a rest, r bs = .ok (a, rest) → P a

theorem yields_pure (h : P a) : Yields (pure a : Reader ε α) P := by
  intro bs b rest hb
  rw [← ((pure_reads_ok a b bs rest).1 hb).1]
  exact h

theorem yields_bind {Q : β → Prop} (hr : Yields r P) (hf : ∀ a, P a → Yields (f a) Q) : Yields (r >>= f) Q := by
  intro bs b rest hb
  obtain ⟨a, mid, ha, hb⟩ := (bind_reads_ok r f bs rest b).1 hb
  exact hf a (hr bs a mid ha) mid b rest hb

theorem yields_skip {Q : β → Prop} (hf : ∀ a, Yields (f a) Q) : Yields (r >>= f) Q :=
  yields_bind (P := fun _ => True) (fun _ _ _ _ => trivial) fun a _ => hf a

theorem yields_skip2 {γ : Type} {g : α → β → Reader ε γ} {Q : γ → Prop} (h : ∀ a b, Yields (g a b) Q) :
    Yields (r >>= fun a => f a >>= g a) Q := yields_skip fun a => yields_skip (h a)

theorem yields_skip4 {γ δ κ : Type} {g : α → β → Reader ε γ} {g' : α → β → γ → Reader ε δ}
    {k : α → β → γ → δ → Reader ε κ} {Q : κ → Prop} (h : ∀ a b c d, Yields (k a b c d) Q) :
    Yields (r >>= fun a => f a >>= fun b => g a b >>= fun c => g' a b c >>= k a b c) Q :=
  yields_skip2 fun a b => yields_skip2 (h a b)

theorem yields_lift (h : ∀ a, x = .ok a → P a) : Yields (lift x) P := by
  intro bs a rest ha
  exact h a ((lift_reads_ok x a bs rest).1 ha).1

theorem yields_times (hr : Yields r P) : ∀ n, Yields (times n r) fun xs => ∀ x ∈ xs, P x
  | 0 => yields_pure (by simp)
  | n + 1 => yields_bind hr fun a ha => yields_bind (yields_times hr n) fun as has =>
      yields_pure (List.forall_mem_cons.2 ⟨ha, has⟩)

end Wire
