import GatherMap.Map
import GatherMap.Code.Keyset

/-!
# Two maps generated ahead of time

Two maps show the library at work as a build step would use it: the reason phrases of HTTP
status codes, on a perfect-hash keyset built with default settings, and the values of
hexadecimal digits in either case, on whichever keyset the builder picks for 22 keys. Each is
also written as code, the text a build step would save for a program to include.

`parseHex` reads a hexadecimal number of at most eight bytes through the digit map.
-/

namespace GatherMap.Samples

/-- HTTP status codes and their reason phrases, in increasing order of code. -/
def statusPhrases : List (Nat × String) := [
  (100, "Continue"), (101, "Switching Protocols"), (200, "OK"), (201, "Created"),
  (202, "Accepted"), (204, "No Content"), (206, "Partial Content"),
  (301, "Moved Permanently"), (302, "Found"), (303, "See Other"), (304, "Not Modified"),
  (307, "Temporary Redirect"), (308, "Permanent Redirect"), (400, "Bad Request"),
  (401, "Unauthorized"), (403, "Forbidden"), (404, "Not Found"), (405, "Method Not Allowed"),
  (406, "Not Acceptable"), (408, "Request Timeout"), (409, "Conflict"), (410, "Gone"),
  (411, "Length Required"), (412, "Precondition Failed"), (413, "Content Too Large"),
  (414, "URI Too Long"), (415, "Unsupported Media Type"), (416, "Range Not Satisfiable"),
  (418, "I'm a teapot"), (422, "Unprocessable Content"), (426, "Upgrade Required"),
  (429, "Too Many Requests"), (500, "Internal Server Error"), (501, "Not Implemented"),
  (502, "Bad Gateway"), (503, "Service Unavailable"), (504, "Gateway Timeout"),
  (505, "HTTP Version Not Supported")]

/-- The status codes as raw `u16` keys, with their phrases. -/
def statusEntries : List (UInt64 × String) :=
  statusPhrases.map fun (code, phrase) => (code.toUInt64, phrase)

/-- A map built without an error result; a build error becomes a fault. -/
def expectBuilt {α : Type} (built : Except Fault (Except BuildError (Map α))) :
    Except Fault (Map α) :=
  match built with
  | .ok (.ok m) => .ok m
  | .ok (.error e) => .error (.failedToBuild "map" e)
  | .error f => .error f

/-- The status map: a perfect-hash keyset over the codes, with the phrases as values. -/
def statusMap : Except Fault (Map String) :=
  match (Builder.default.buildPerfect .u16 (statusEntries.map (·.1)).toArray).value with
  | .error e => .error (.failedToBuild "keyset" e)
  | .ok ks => expectBuilt (Map.ofEntries (.perfect ks) statusEntries)

/-- The hexadecimal digits `0`–`9`, `a`–`f` and `A`–`F`, with their values. -/
def hexDigitEntries : List (Char × Nat) :=
  ((List.range 10).map fun d => (Char.ofNat ('0'.toNat + d), d)) ++
    ((List.range 6).map fun d => (Char.ofNat ('a'.toNat + d), d + 10)) ++
    ((List.range 6).map fun d => (Char.ofNat ('A'.toNat + d), d + 10))

/-- The digit map, on the keyset the default builder picks. -/
def hexDigitMap : Except Fault (Map Nat) :=
  expectBuilt (Builder.default.buildMap .char
    (hexDigitEntries.map fun (c, d) => (c.toNat.toUInt64, d))).value

/-- The value of one hexadecimal digit. -/
def digitValue (c : Char) : Option Nat :=
  match hexDigitMap with
  | .ok m => match m.get? c.toNat.toUInt64 with
    | .ok v => v
    | .error _ => none
  | .error _ => none

/-- A hexadecimal number of one to eight bytes of text; any other character gives nothing. -/
def parseHex (s : String) : Option Nat :=
  if s.isEmpty || s.utf8ByteSize > 8 then none
  else s.toList.foldlM (fun acc c => (digitValue c).map fun d => (acc * 16 + d) % Nat.pow 2 32) 0

/-- What the build step prints: that it need not run again unless its own file changes. -/
def buildOutput : String := "cargo::rerun-if-changed=build.rs\n"

/-- The code of the status map. -/
def statusCode : Except Fault String :=
  statusMap.map fun m =>
    Code.TokenTree.renderAll
      (Code.Generator.generate {} (Code.mapPiece false m (fun p => .str p) none))

/-- The code of the digit map; its values are bytes. -/
def hexDigitCode : Except Fault String :=
  hexDigitMap.map fun (m : Map Nat) =>
    Code.TokenTree.renderAll (Code.Generator.generate {}
      (Code.mapPiece true m (fun (d : Nat) => .int d) (some m.values.toList)))

end GatherMap.Samples
