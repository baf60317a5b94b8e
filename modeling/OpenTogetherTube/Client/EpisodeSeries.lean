import OpenTogetherTube.Lib.Decimal
import OpenTogetherTube.Lib.Runs
import OpenTogetherTube.Lib.Splice

/-!
# The numbers in an episode link

Embeds the number tokens of `client/src/util/episode-series.ts`. A URL is the list of its
characters, and offsets count these where the source counts UTF-16 units: an offset is only ever
used to cut the URL it was found in, so that no result depends on the unit. Values are exact, as the
source has them below `2^53`.
-/

namespace OpenTogetherTube.EpisodeSeries

open Lib

structure NumberToken where
  value : Nat
  digits : List Char
  start : Nat
  end_ : Nat
deriving DecidableEq

/-- `url.slice(from, to)`. -/
def slice (url : List Char) (from_ stop : Nat) : List Char := (url.take stop).drop from_

/-- `url.lastIndexOf(char, position)`. -/
def lastIndexOf (url : List Char) (char : Char) (position : Nat) : Option Nat :=
  lastIdx? (· == char) (url.take (position + 1))

/-- `authorityEnd`: behind the first `://`. -/
def authorityEnd (url : List Char) : Nat := (infixIdx? [':', '/', '/'] url).elim 0 (· + 3)

/-- `from`: the first slash behind the authority. -/
def pathStart (url : List Char) : Nat :=
  authorityEnd url + (url.drop (authorityEnd url)).findIdx (· == '/')

def queryOrFragment (char : Char) : Bool := char == '?' || char == '#'

/-- Where the path ends: at a query or a fragment, or with the URL. -/
def pathStop (url : List Char) : Nat :=
  pathStart url + (url.drop (pathStart url)).findIdx queryOrFragment

/-- `to`: the file extension is never an episode number. -/
def numbersStop (url : List Char) : Nat :=
  match lastIndexOf url '.' (pathStop url) with
  | none => pathStop url
  | some lastDot =>
      if (lastIndexOf url '/' (pathStop url)).all (· < lastDot) ∧ pathStart url ≤ lastDot then
        lastDot
      else pathStop url

/-- A run of digits as a token. -/
def tokenOf (run : Run Char) : NumberToken where
  value := Nat.ofDigitChars 10 run.items 0
  digits := run.items
  start := run.start
  end_ := run.start + run.items.length

def findNumberTokens (url : List Char) : List NumberToken :=
  (runs Char.isDigit (pathStart url) (slice url (pathStart url) (numbersStop url))).map tokenOf

/-- The loop of `seriesKey` from a cursor on. -/
def keyFrom (url : List Char) : Nat → List NumberToken → List Char
  | cursor, [] => url.drop cursor
  | cursor, token :: rest => slice url cursor token.start ++ '#' :: keyFrom url token.end_ rest

def seriesKey (url : List Char) : List Char :=
  let tokens := findNumberTokens url
  if tokens.length = 0 then url else keyFrom url 0 tokens

def replaceToken (url : List Char) (token : NumberToken) (value : Nat) : List Char :=
  url.take token.start ++ padded token.digits.length value ++ url.drop token.end_

def shiftToken (url : List Char) (token : NumberToken) (offset : ℤ) : List Char :=
  replaceToken url token (max 0 (token.value + offset)).toNat

example : (findNumberTokens "http://h:80/a/07/ep01.mp4?t=9".toList).map (·.value) = [7, 1] := by
  decide +kernel

end OpenTogetherTube.EpisodeSeries
