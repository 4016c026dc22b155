import Mathlib.Data.List.Infix
import UsbMaker.Disk.Handles

/-!
# Hard drives and flash drives

`IsHDD` guesses from the drive type, the size, the friendly name and the USB ids whether a drive is
a hard drive; a positive score means that it is. The tables are those of `hdd_vs_ufd.h`. A string
of the source is a `String` with one character for each byte.

## Main definitions

* `Devices.strnicmp`, `Devices.stricmp`, `Devices.strstr`: the string functions, as tests.
* `Devices.isHdd`: the score.
-/

namespace UsbMaker.Devices

open Disk (DriveType)

/-- Whether `_strnicmp` finds no difference. -/
def strnicmp (str1 str2 : String) (count : Nat) : Bool :=
  (str1.toList.take count).map Char.toLower == (str2.toList.take count).map Char.toLower

/-- Whether `_stricmp` finds no difference. -/
def stricmp (str1 str2 : String) : Bool :=
  str1.toList.map Char.toLower == str2.toList.map Char.toLower

/-- Whether `strstr` finds `str2` in `str1`. -/
def strstr (str1 str2 : String) : Bool := decide (str2.toList <:+: str1.toList)

/-- `MB`. -/
def mb : Nat := 1048576

/-- `GB`. -/
def gb : Nat := 1073741824

/-- `str_score`. -/
def strScore : List (String × Int) :=
  [("IC#", 10), ("ST#", 10), ("MX#", 10), ("WDC", 10), ("IBM", 10), ("STM#", 10), ("HDS#", 10),
    ("HDP#", 10), ("HDT#", 10), ("HTE#", 10), ("HTS#", 10), ("HUA#", 10), ("APPLE", 10),
    ("INTEL", 10), ("MAXTOR", 10), ("HITACHI", 10), ("SEAGATE", 10), ("SAMSUNG", 5),
    ("FUJITSU", 10), ("TOSHIBA", 5), ("QUANTUM", 10), ("EXCELSTOR", 10), ("CORSAIR", -15),
    ("KINGMAX", -15), ("KINGSTON", -15), ("LEXAR", -15), ("MUSHKIN", -15), ("PNY", -15),
    ("SANDISK", -15), ("TRANSCEND", -15)]

/-- `str_adjust`. -/
def strAdjust : List (String × Int) :=
  [("Gadget", -10), ("Flash", -10)]

/-- `vid_score`. -/
def vidScore : List (Nat × Int) :=
  [(0x0011, -5), (0x03f0, -5), (0x0409, -10), (0x0411, 5), (0x0420, -5), (0x046d, -5), (0x0480, 5),
    (0x048d, -5), (0x04b4, 10), (0x04c5, 7), (0x04e8, 5), (0x04f3, -5), (0x04fc, 5), (0x058f, -5),
    (0x059b, 7), (0x059f, 5), (0x05ab, 10), (0x05dc, -5), (0x05e3, -5), (0x067b, 7), (0x0718, -2),
    (0x0781, -5), (0x07ab, 8), (0x090c, -5), (0x0928, 10), (0x0930, -8), (0x093a, -5),
    (0x0951, -5), (0x09da, -5), (0x0b27, -5), (0x0bc2, 10), (0x0c76, -5), (0x0cf2, -5),
    (0x0d49, 10), (0x0dc4, 10), (0x1000, -5), (0x1002, -5), (0x1005, -5), (0x1043, -5),
    (0x1058, 10), (0x1221, -5), (0x12d1, -5), (0x125f, -5), (0x1307, -5), (0x13fd, 10),
    (0x13fe, -5), (0x14cd, -5), (0x1516, -5), (0x152d, 10), (0x1687, -5), (0x174c, 3), (0x1759, 8),
    (0x18a5, -2), (0x18ec, -5), (0x1908, -5), (0x1a4a, 10), (0x1b1c, -5), (0x1e3d, -5),
    (0x1f75, -2), (0x2001, -5), (0x201e, -5), (0x2188, -5), (0x3538, -5), (0x413c, -5),
    (0x4971, 10), (0x5136, -5), (0x8564, -5), (0x8644, -5), (0xeeee, -5)]

/-- `vidpid_score`. -/
def vidpidScore : List (Nat × Nat × Int) :=
  [(0x03f0, 0xbd07, 10), (0x0402, 0x5621, 10), (0x040d, 0x6204, 10), (0x043e, 0x70f1, 10),
    (0x0471, 0x2021, 10), (0x05e3, 0x0718, 10), (0x05e3, 0x0719, 10), (0x05e3, 0x0731, 10),
    (0x05e3, 0x0731, 2), (0x0634, 0x0655, 5), (0x0718, 0x1000, 7), (0x0939, 0x0b16, 10),
    (0x0c0b, 0xb001, 10), (0x0c0b, 0xb159, 10), (0x0e21, 0x0510, 5), (0x11b0, 0x6298, 10),
    (0x125f, 0xa93a, 10), (0x125f, 0xa94a, 10), (0x14cd, 0x6116, 10), (0x18a5, 0x0214, 10),
    (0x18a5, 0x0215, 10), (0x18a5, 0x0216, 10), (0x18a5, 0x0227, 10), (0x18a5, 0x022a, 10),
    (0x18a5, 0x022b, 10), (0x18a5, 0x0237, 10), (0x1bcf, 0x0c31, 10), (0x1f75, 0x0888, 10),
    (0x3538, 0x0902, 10), (0x55aa, 0x0015, 10), (0x55aa, 0x0102, 8), (0x55aa, 0x0103, 10),
    (0x55aa, 0x1234, 8), (0x55aa, 0x2b00, 8), (0x6795, 0x2756, 2), (0x0324, 0xbc06, -20),
    (0x0324, 0xbc08, -20), (0x0325, 0xac02, -20), (0x0411, 0x01e8, -20), (0x04e8, 0x0100, -20),
    (0x04e8, 0x0100, -20), (0x04e8, 0x0101, -20), (0x04e8, 0x1a23, -20), (0x04e8, 0x5120, -20),
    (0x04e8, 0x6818, -20), (0x04e8, 0x6845, -20), (0x04e8, 0x685E, -20), (0x04fc, 0x05d8, -20),
    (0x04fc, 0x5720, -20), (0x059f, 0x1027, -20), (0x059f, 0x103B, -20), (0x059f, 0x1064, -20),
    (0x067b, 0x2517, -20), (0x067b, 0x2528, -20), (0x067b, 0x3400, -10), (0x067b, 0x3500, -10),
    (0x07ab, 0xfcab, -20), (0x090c, 0x1000, -20), (0x0930, 0x1400, -20), (0x0930, 0x6533, -20),
    (0x0930, 0x653e, -20), (0x0930, 0x6544, -20), (0x0930, 0x6545, -20), (0x0BC2, 0x03312, -20),
    (0x18a5, 0x0243, -20), (0x18a5, 0x0245, -20), (0x18a5, 0x0302, -20), (0x18a5, 0x0304, -20),
    (0x18a5, 0x3327, -20), (0x1f75, 0x0917, -10)]

/-- The loop of `IsHDD` over `str_score`. It ends at the first name that is longer than the string,
and a `#` at the end of a name stands for a digit in the place behind it. -/
def nameScore (strid : String) : List (String × Int) → Int
  | [] => 0
  | (name, score) :: rest =>
    let mlen := name.length
    let wc := name.toList[mlen - 1]? == some '#'
    if strid.length < mlen then 0
    else if strnicmp strid name (mlen - if wc then 1 else 0) &&
        (!wc || (strid.toList[mlen]?).any Char.isDigit) then score
    else nameScore strid rest

/-- `IsHDD`, for the drive type and the drive size that it asks for. -/
def isHdd (driveType : DriveType) (driveSize vid pid : Nat) (strid : String) : Int :=
  (if driveType = .fixed then 3 else 0) +
    (if 512 * gb < driveSize then 10 else if driveSize < 8 * gb then -10 else 0) +
    nameScore strid strScore +
    ((strAdjust.filter fun entry => strstr strid entry.1).map Prod.snd).sum +
    ((vidScore.find? fun entry => entry.1 == vid).map Prod.snd).getD 0 +
    ((vidpidScore.find? fun entry => entry.1 == vid && entry.2.1 == pid).map
      fun entry => entry.2.2).getD 0

end UsbMaker.Devices
