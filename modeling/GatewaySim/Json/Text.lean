import GatewaySim.Json.Parts
import GatewaySim.Text.Hexadecimal

/-! # Reading quoted texts

The reader's side of quoted strings: `readText` gives the characters that a quoted text stands for,
`skipText` only finds its end. Both start behind the opening quote. A character outside the basic
plane may be given by two hexadecimal units, a leading and a trailing surrogate; a reader insists on
such pairs, while skipping looks at one unit at a time.
-/

namespace GatewaySim.Json

/-- Reads a unit of four hexadecimal digits. A text of fewer than four bytes has come to its end. -/
def readUnit (text : List Char) : Except ReadError (Nat × Rest text) :=
  match text with
  | a :: b :: c :: d :: rest =>
    match Text.hexValue? a, Text.hexValue? b, Text.hexValue? c, Text.hexValue? d with
    | some a, some b, some c, some d =>
      .ok (((a * 16 + b) * 16 + c) * 16 + d, (((Rest.tail _ rest).push _).push _).push _)
    | _, _, _, _ => .error .invalidEscape
  | short =>
    if (String.ofList short).utf8ByteSize < 4 then .error .endInText else .error .invalidEscape

def isLeading (unit : Nat) : Bool := 0xd800 ≤ unit && unit ≤ 0xdbff

def isTrailing (unit : Nat) : Bool := 0xdc00 ≤ unit && unit ≤ 0xdfff

def readCodePoint (text : List Char) : Except ReadError (Char × Rest text) :=
  match readUnit text with
  | .error e => .error e
  | .ok (unit, rest) =>
    if isTrailing unit then .error .loneSurrogate
    else if !isLeading unit then .ok (Char.ofNat unit, rest)
    else
      match h : rest.1 with
      | [] => .error .endInText
      | ['\\'] => .error .endInText
      | '\\' :: 'u' :: more =>
        match readUnit more with
        | .error e => .error e
        | .ok (second, rest') =>
          if isTrailing second then
            .ok (Char.ofNat ((unit - 0xd800) * 0x400 + (second - 0xdc00) + 0x10000),
              ⟨rest'.1, by
                have first := rest.2
                have last := rest'.2
                rw [h] at first
                simp only [List.length_cons] at first
                omega⟩)
          else .error .loneSurrogate
      | _ => .error .surrogateCutShort

def shortEscape? (c : Char) : Option Char :=
  if c = '"' ∨ c = '\\' ∨ c = '/' then some c
  else if c = 'b' then some '\x08'
  else if c = 'f' then some '\x0c'
  else if c = 'n' then some '\n'
  else if c = 'r' then some '\r'
  else if c = 't' then some '\t'
  else none

def readEscape (text : List Char) : Except ReadError (Char × Rest text) :=
  match text with
  | [] => .error .endInText
  | c :: rest =>
    if c = 'u' then
      match readCodePoint rest with
      | .error e => .error e
      | .ok (value, rest') => .ok (value, rest'.push c)
    else
      match shortEscape? c with
      | some value => .ok (value, .tail c rest)
      | none => .error .invalidEscape

def skipEscape (text : List Char) : Except ReadError (Rest text) :=
  match text with
  | [] => .error .endInText
  | c :: rest =>
    if c = 'u' then
      match readUnit rest with
      | .error e => .error e
      | .ok (_, rest') => .ok (rest'.push c)
    else if (shortEscape? c).isSome then .ok (.tail c rest)
    else .error .invalidEscape

/-- Reads a quoted text up to its closing quote; `read` holds what has been read, last first. -/
def readTextFrom (read : List Char) (text : List Char) :
    Except ReadError (List Char × List Char) :=
  match text with
  | [] => .error .endInText
  | c :: rest =>
    if c = '"' then .ok (read.reverse, rest)
    else if c = '\\' then
      match readEscape rest with
      | .error e => .error e
      | .ok (value, rest') => readTextFrom (value :: read) rest'.1
    else if c.toNat < 0x20 then .error .controlCharacter
    else readTextFrom (c :: read) rest
termination_by text.length
decreasing_by
  next => exact Nat.lt_succ_of_lt rest'.2
  next => exact Nat.lt_succ_self _

def skipText (text : List Char) : Except ReadError (List Char) :=
  match text with
  | [] => .error .endInText
  | c :: rest =>
    if c = '"' then .ok rest
    else if c = '\\' then
      match skipEscape rest with
      | .error e => .error e
      | .ok rest' => skipText rest'.1
    else if c.toNat < 0x20 then .error .controlCharacter
    else skipText rest
termination_by text.length
decreasing_by
  next => exact Nat.lt_succ_of_lt rest'.2
  next => exact Nat.lt_succ_self _

theorem readTextFrom_length_lt {read text value rest : List Char}
    (h : readTextFrom read text = .ok (value, rest)) : rest.length < text.length := by
  fun_induction readTextFrom read text with
  | case1 => cases h
  | case2 read rest' =>
    cases h
    exact Nat.lt_succ_self _
  | case3 => cases h
  | case4 read tail value rest' _ _ ih =>
    have := ih h
    have := rest'.2
    simp only [List.length_cons]
    omega
  | case5 => cases h
  | case6 read c tail _ _ _ ih =>
    have := ih h
    simp only [List.length_cons]
    omega

theorem skipText_length_lt {text rest : List Char} (h : skipText text = .ok rest) :
    rest.length < text.length := by
  fun_induction skipText text with
  | case1 => cases h
  | case2 tail =>
    cases h
    exact Nat.lt_succ_self _
  | case3 => cases h
  | case4 tail rest' _ _ ih =>
    have := ih h
    have := rest'.2
    simp only [List.length_cons]
    omega
  | case5 => cases h
  | case6 c tail _ _ _ ih =>
    have := ih h
    simp only [List.length_cons]
    omega

def readText (text : List Char) : Except ReadError (String × Rest text) :=
  match h : readTextFrom [] text with
  | .error e => .error e
  | .ok (value, rest) => .ok (String.ofList value, ⟨rest, readTextFrom_length_lt h⟩)

end GatewaySim.Json
