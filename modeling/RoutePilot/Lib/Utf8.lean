/-
  UTF-8, decoded as the bytes arrive.

  A decoder keeps the bytes of the character it has not seen the end of.  It reads back
  what was encoded (`pushAll_encode`), wherever the bytes are cut (`pushAll_append`).
-/
import Mathlib.Data.List.Basic
import Mathlib.Tactic.Common

namespace Lib.Utf8

/-- The bytes of a text. -/
def encode (text : List Char) : List UInt8 := text.flatMap String.utf8EncodeChar

/-- The character at the head of some bytes. -/
def head? (bytes : List UInt8) : Option Char := bytes.toByteArray.utf8DecodeChar? 0

/-- The next byte, after the bytes of an unfinished character.  Bytes that no character begins with
    are replaced. -/
def push (pending : List UInt8) (b : UInt8) : List Char × List UInt8 :=
  match head? (pending ++ [b]) with
  | some c => ([c], [])
  | none => if pending.length < 3 then ([], pending ++ [b]) else (['\uFFFD'], [])

/-- The next bytes. -/
def pushAll : List UInt8 → List UInt8 → List Char × List UInt8
  | pending, [] => ([], pending)
  | pending, b :: bytes =>
    let pushed := push pending b
    let rest := pushAll pushed.2 bytes
    (pushed.1 ++ rest.1, rest.2)

theorem pushAll_append (pending bytes bytes' : List UInt8) :
    pushAll pending (bytes ++ bytes') =
      ((pushAll pending bytes).1 ++ (pushAll (pushAll pending bytes).2 bytes').1,
        (pushAll (pushAll pending bytes).2 bytes').2) := by
  induction bytes generalizing pending with
  | nil => rfl
  | cons b bytes ih =>
    rw [List.cons_append, pushAll, ih]
    simp [pushAll]

theorem head?_encodeChar (c : Char) : head? (String.utf8EncodeChar c) = some c := by
  have h := @ByteArray.utf8DecodeChar?_utf8EncodeChar_append ByteArray.empty c
  rwa [ByteArray.append_empty] at h

/-- No character is seen before its last byte. -/
theorem head?_eq_none {c : Char} {front back : List UInt8} (h : String.utf8EncodeChar c = front ++ back)
    (hback : back ≠ []) : head? front = none := by
  cases hhead : head? front with
  | none => rfl
  | some d =>
    have hmore := ByteArray.utf8DecodeChar?_append_eq_some hhead back.toByteArray
    have hsame : d = c := by
      have hc := head?_encodeChar c
      rw [h, head?, List.toByteArray_append] at hc
      exact Option.some.inj (hmore.symm.trans hc)
    have hsize := ByteArray.le_size_of_utf8DecodeChar?_eq_some hhead
    have hlen := congrArg List.length h
    rw [String.length_utf8EncodeChar, List.length_append] at hlen
    have hpos := List.length_pos_iff.2 hback
    simp only [List.size_toByteArray, hsame] at hsize
    omega

theorem pushAll_encodeChar_from {c : Char} {front back : List UInt8}
    (h : String.utf8EncodeChar c = front ++ back) (hback : back ≠ []) : pushAll front back = ([c], []) := by
  induction back generalizing front with
  | nil => exact absurd rfl hback
  | cons b back ih =>
    have hnext : String.utf8EncodeChar c = front ++ [b] ++ back := by rw [h, List.append_assoc]; rfl
    by_cases hlast : back = []
    · subst hlast
      rw [List.append_nil] at hnext
      simp [pushAll, push, ← hnext, head?_encodeChar]
    · have hnone := head?_eq_none hnext hlast
      have hshort : front.length < 3 := by
        have hlen := congrArg List.length h
        have hpos := List.length_pos_iff.2 hlast
        have hfour := c.utf8Size_le_four
        rw [String.length_utf8EncodeChar, List.length_append, List.length_cons] at hlen
        omega
      have hpush : push front b = ([], front ++ [b]) := by
        unfold push
        simp only [hnone]
        rw [if_pos hshort]
      simp [pushAll, hpush, ih hnext hlast]

theorem pushAll_encodeChar (c : Char) : pushAll [] (String.utf8EncodeChar c) = ([c], []) :=
  pushAll_encodeChar_from (List.nil_append _).symm String.utf8EncodeChar_ne_nil

/-- **Decoding** reads back what was encoded. -/
theorem pushAll_encode (text : List Char) : pushAll [] (encode text) = (text, []) := by
  induction text with
  | nil => rfl
  | cons c text ih =>
    have hcons : encode (c :: text) = String.utf8EncodeChar c ++ encode text := by simp [encode]
    rw [hcons, pushAll_append, pushAll_encodeChar, ih]
    rfl

theorem encode_injective : Function.Injective encode := by
  intro text text' h
  have hread := congrArg (pushAll []) h
  rw [pushAll_encode, pushAll_encode] at hread
  exact (Prod.mk.inj hread).1

end Lib.Utf8
