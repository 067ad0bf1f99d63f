import BerOid.System
import BerOid.Value

/-!
# Rotating log files

A log file with a size bound is moved away before a line is written that would take it to the bound: the numbered files behind it
move up by one, the oldest is dropped, and a new file is begun. Without numbered files to keep, the file only grows. A log file
may be a device instead, which is neither measured nor moved.
-/

namespace BerOid.Logging

/-- A log file: where it is, the size that calls for a rotation, how many numbered files are kept, and the device that it is, if it is
one. -/
structure LogFile where
  path : Path
  maxBytes : Value
  backupCount : Value
  device : Option Device := none

namespace LogFile

/-- The number of numbered files. -/
def backups (f : LogFile) : Nat := (f.backupCount.bound?.getD 0).toNat

/-- Whether a line calls for a rotation: the size of the file is counted in bytes, that of the line in characters. -/
def isDue (f : LogFile) (line : String) (t : FileTree) : Bool :=
  match f.maxBytes.bound? with
  | some bound => bound > 0 && bound ≤ (((t.content? f.path).getD "").utf8ByteSize + line.length : Nat)
  | none => false

/-- Moves the numbered files up and the file to number one, and begins a new file. -/
def rotate (f : LogFile) (t : FileTree) : FileTree :=
  if f.backups = 0 then t
  else
    let shifted := (List.range (f.backups - 1)).reverse.foldl
      (fun t i => t.move (f.path.numbered (i + 1)) (f.path.numbered (i + 2))) t
    (shifted.move f.path (f.path.numbered 1)).put f.path ""

/-- Writes a line at the end of the file, after a rotation if one is due. -/
def append (f : LogFile) (line : String) (t : FileTree) : FileTree :=
  let t := if f.isDue line t then f.rotate t else t
  t.put f.path ((t.content? f.path).getD "" ++ line)

end LogFile

end BerOid.Logging
