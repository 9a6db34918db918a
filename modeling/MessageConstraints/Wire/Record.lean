/-!
# Records in wire format

A message in wire format is a row of records, each with a field number and a value whose kind says
how long it is.  What the value means is up to the type of the field.  Groups are passed over: a
record that lies inside one does not belong to the message.
-/

namespace MessageConstraints

/-- The value of a record. -/
inductive WireValue where
  | varint (n : Nat)
  | fixed64 (n : Nat)
  | fixed32 (n : Nat)
  | bytes (bytes : List UInt8)
deriving Repr, DecidableEq

/-- A record, or one end of a group. -/
inductive WireItem where
  | record (number : Nat) (value : WireValue)
  | openGroup (number : Nat)
  | closeGroup (number : Nat)
deriving Repr, DecidableEq

/-- The records of a message, by field number. -/
abbrev WireRecords := List (Nat × WireValue)

namespace WireItem

/-- A number in groups of seven bits, the lowest first, in at most `room` bytes; it has at most
64 bits. -/
def varint? : Nat → List UInt8 → Option (Nat × List UInt8)
  | 0, _ => none
  | _ + 1, [] => none
  | room + 1, b :: rest =>
    if b.toNat < 128 then
      if room = 0 ∧ 1 < b.toNat then none else some (b.toNat, rest)
    else (varint? room rest).map fun (high, after) => (b.toNat - 128 + 128 * high, after)

theorem length_varint?_lt {room n : Nat} {bytes after : List UInt8}
    (h : varint? room bytes = some (n, after)) : after.length < bytes.length := by
  induction bytes generalizing room n after with
  | nil => cases room <;> simp [varint?] at h
  | cons b rest ih =>
    cases room with
    | zero => simp [varint?] at h
    | succ room =>
      simp only [varint?] at h
      split at h
      · split at h
        · simp at h
        · simp only [Option.some.injEq, Prod.mk.injEq] at h
          simp [← h.2]
      · obtain ⟨⟨high, after'⟩, hrest, heq⟩ := Option.map_eq_some_iff.mp h
        simp only [Prod.mk.injEq] at heq
        have := ih hrest
        simp only [List.length_cons, ← heq.2]
        omega

/-- A number of some bytes, the lowest first. -/
def littleEndian (bytes : List UInt8) : Nat :=
  bytes.foldr (fun b acc => b.toNat + 256 * acc) 0

/-- So many bytes and the bytes after them. -/
def split? (count : Nat) (bytes : List UInt8) : Option (List UInt8 × List UInt8) :=
  if count ≤ bytes.length then some (bytes.take count, bytes.drop count) else none

theorem length_split?_le {count : Nat} {bytes front after : List UInt8}
    (h : split? count bytes = some (front, after)) : after.length ≤ bytes.length := by
  unfold split? at h
  split at h
  · simp only [Option.some.injEq, Prod.mk.injEq] at h
    simp [← h.2]
  · simp at h

/-- The item with a field number and a kind, and the bytes after it. -/
def body? (number kind : Nat) (bytes : List UInt8) : Option (WireItem × List UInt8) :=
  match kind with
  | 0 => (varint? 10 bytes).map fun (n, after) => (record number (.varint n), after)
  | 1 => (split? 8 bytes).map fun (front, after) =>
    (record number (.fixed64 (littleEndian front)), after)
  | 2 =>
    (varint? 10 bytes).bind fun (count, rest) =>
      (split? count rest).map fun (front, after) => (record number (.bytes front), after)
  | 3 => some (openGroup number, bytes)
  | 4 => some (closeGroup number, bytes)
  | 5 => (split? 4 bytes).map fun (front, after) =>
    (record number (.fixed32 (littleEndian front)), after)
  | _ => none

theorem length_body?_le {number kind : Nat} {bytes after : List UInt8} {item : WireItem}
    (h : body? number kind bytes = some (item, after)) : after.length ≤ bytes.length := by
  unfold body? at h
  split at h
  · obtain ⟨⟨n, rest⟩, hn, heq⟩ := Option.map_eq_some_iff.mp h
    simp only [Prod.mk.injEq] at heq
    exact heq.2 ▸ Nat.le_of_lt (length_varint?_lt hn)
  · obtain ⟨⟨front, rest⟩, hs, heq⟩ := Option.map_eq_some_iff.mp h
    simp only [Prod.mk.injEq] at heq
    exact heq.2 ▸ length_split?_le hs
  · obtain ⟨⟨count, rest⟩, hn, hrest⟩ := Option.bind_eq_some_iff.mp h
    obtain ⟨⟨front, rest'⟩, hs, heq⟩ := Option.map_eq_some_iff.mp hrest
    simp only [Prod.mk.injEq] at heq
    exact heq.2 ▸ Nat.le_trans (length_split?_le hs) (Nat.le_of_lt (length_varint?_lt hn))
  · simp only [Option.some.injEq, Prod.mk.injEq] at h
    exact h.2 ▸ Nat.le_refl _
  · simp only [Option.some.injEq, Prod.mk.injEq] at h
    exact h.2 ▸ Nat.le_refl _
  · obtain ⟨⟨front, rest⟩, hs, heq⟩ := Option.map_eq_some_iff.mp h
    simp only [Prod.mk.injEq] at heq
    exact heq.2 ▸ length_split?_le hs
  · simp at h

/-- An item and the bytes after it. -/
def next? (bytes : List UInt8) : Option (WireItem × List UInt8) :=
  (varint? 10 bytes).bind fun (key, rest) =>
    if key < 1 <<< 32 ∧ 0 < key / 8 then body? (key / 8) (key % 8) rest else none

theorem length_next?_lt {bytes after : List UInt8} {item : WireItem}
    (h : next? bytes = some (item, after)) : after.length < bytes.length := by
  obtain ⟨⟨key, rest⟩, hkey, hbody⟩ := Option.bind_eq_some_iff.mp h
  simp only at hbody
  split at hbody
  · exact Nat.lt_of_le_of_lt (length_body?_le hbody) (length_varint?_lt hkey)
  · simp at hbody

/-- The items of a message. -/
def items? (bytes : List UInt8) : Option (List WireItem) :=
  match bytes with
  | [] => some []
  | b :: rest =>
    match h : next? (b :: rest) with
    | none => none
    | some (item, after) =>
      have : after.length < (b :: rest).length := length_next?_lt h
      (items? after).map (item :: ·)
termination_by bytes.length
decreasing_by assumption

/-- The records outside groups, given the numbers of the groups that are open, innermost first. -/
def outside? : List Nat → List WireItem → Option WireRecords
  | [], [] => some []
  | _ :: _, [] => none
  | groups, openGroup number :: rest => outside? (number :: groups) rest
  | group :: groups, closeGroup number :: rest =>
    if group = number then outside? groups rest else none
  | [], closeGroup _ :: _ => none
  | [], record number value :: rest => (outside? [] rest).map ((number, value) :: ·)
  | group :: groups, record _ _ :: rest => outside? (group :: groups) rest

end WireItem

namespace WireRecords

/-- The records of a message in wire format. -/
def ofBytes? (bytes : List UInt8) : Option WireRecords :=
  (WireItem.items? bytes).bind (WireItem.outside? [])

/-- The values of a field. -/
def values (records : WireRecords) (number : Nat) : List WireValue :=
  (records.filter (·.1 = number)).map (·.2)

end WireRecords

end MessageConstraints
