import Alembic.Text.Utf8
import Alembic.Text.CodeTable
/-! # Grapheme clusters -/

namespace Alembic.Text

/-- The grapheme cluster break class of a character. -/
inductive BreakClass where
  | other
  | carriageReturn
  | lineFeed
  | control
  | extend
  | joiner
  | regionalIndicator
  | prepend
  | spacingMark
  | leadingJamo
  | vowelJamo
  | trailingJamo
  | syllable
  | closedSyllable
  deriving BEq, DecidableEq, Repr

/-- The break classes as `start.class` entries of a code map, a Hangul syllable of either kind
under one number. -/
def breakClassText : String :=
  String.intercalate " "
    ["0.3 A.2 B.3 D.1 E.3 20.0 7F.3 A0.0 AD.3 AE.0 300.4 370.0 483.4 48A.0 591.4 5BE.0 5BF.4 5C0.0",
     "5C1.4 5C3.0 5C4.4 5C6.0 5C7.4 5C8.0 600.7 606.0 610.4 61B.0 61C.3 61D.0 64B.4 660.0 670.4",
     "671.0 6D6.4 6DD.7 6DE.0 6DF.4 6E5.0 6E7.4 6E9.0 6EA.4 6EE.0 70F.7 710.0 711.4 712.0 730.4",
     "74B.0 7A6.4 7B1.0 7EB.4 7F4.0 7FD.4 7FE.0 816.4 81A.0 81B.4 824.0 825.4 828.0 829.4 82E.0",
     "859.4 85C.0 890.7 892.0 898.4 8A0.0 8CA.4 8E2.7 8E3.4 903.8 904.0 93A.4 93B.8 93C.4 93D.0",
     "93E.8 941.4 949.8 94D.4 94E.8 950.0 951.4 958.0 962.4 964.0 981.4 982.8 984.0 9BC.4 9BD.0",
     "9BE.4 9BF.8 9C1.4 9C5.0 9C7.8 9C9.0 9CB.8 9CD.4 9CE.0 9D7.4 9D8.0 9E2.4 9E4.0 9FE.4 9FF.0",
     "A01.4 A03.8 A04.0 A3C.4 A3D.0 A3E.8 A41.4 A43.0 A47.4 A49.0 A4B.4 A4E.0 A51.4 A52.0 A70.4",
     "A72.0 A75.4 A76.0 A81.4 A83.8 A84.0 ABC.4 ABD.0 ABE.8 AC1.4 AC6.0 AC7.4 AC9.8 ACA.0 ACB.8",
     "ACD.4 ACE.0 AE2.4 AE4.0 AFA.4 B00.0 B01.4 B02.8 B04.0 B3C.4 B3D.0 B3E.4 B40.8 B41.4 B45.0",
     "B47.8 B49.0 B4B.8 B4D.4 B4E.0 B55.4 B58.0 B62.4 B64.0 B82.4 B83.0 BBE.4 BBF.8 BC0.4 BC1.8",
     "BC3.0 BC6.8 BC9.0 BCA.8 BCD.4 BCE.0 BD7.4 BD8.0 C00.4 C01.8 C04.4 C05.0 C3C.4 C3D.0 C3E.4",
     "C41.8 C45.0 C46.4 C49.0 C4A.4 C4E.0 C55.4 C57.0 C62.4 C64.0 C81.4 C82.8 C84.0 CBC.4 CBD.0",
     "CBE.8 CBF.4 CC0.8 CC2.4 CC3.8 CC5.0 CC6.4 CC7.8 CC9.0 CCA.8 CCC.4 CCE.0 CD5.4 CD7.0 CE2.4",
     "CE4.0 CF3.8 CF4.0 D00.4 D02.8 D04.0 D3B.4 D3D.0 D3E.4 D3F.8 D41.4 D45.0 D46.8 D49.0 D4A.8",
     "D4D.4 D4E.7 D4F.0 D57.4 D58.0 D62.4 D64.0 D81.4 D82.8 D84.0 DCA.4 DCB.0 DCF.4 DD0.8 DD2.4",
     "DD5.0 DD6.4 DD7.0 DD8.8 DDF.4 DE0.0 DF2.8 DF4.0 E31.4 E32.0 E33.8 E34.4 E3B.0 E47.4 E4F.0",
     "EB1.4 EB2.0 EB3.8 EB4.4 EBD.0 EC8.4 ECF.0 F18.4 F1A.0 F35.4 F36.0 F37.4 F38.0 F39.4 F3A.0",
     "F3E.8 F40.0 F71.4 F7F.8 F80.4 F85.0 F86.4 F88.0 F8D.4 F98.0 F99.4 FBD.0 FC6.4 FC7.0 102D.4",
     "1031.8 1032.4 1038.0 1039.4 103B.8 103D.4 103F.0 1056.8 1058.4 105A.0 105E.4 1061.0 1071.4",
     "1075.0 1082.4 1083.0 1084.8 1085.4 1087.0 108D.4 108E.0 109D.4 109E.0 1100.9 1160.A 11A8.B",
     "1200.0 135D.4 1360.0 1712.4 1715.8 1716.0 1732.4 1734.8 1735.0 1752.4 1754.0 1772.4 1774.0",
     "17B4.4 17B6.8 17B7.4 17BE.8 17C6.4 17C7.8 17C9.4 17D4.0 17DD.4 17DE.0 180B.4 180E.3 180F.4",
     "1810.0 1885.4 1887.0 18A9.4 18AA.0 1920.4 1923.8 1927.4 1929.8 192C.0 1930.8 1932.4 1933.8",
     "1939.4 193C.0 1A17.4 1A19.8 1A1B.4 1A1C.0 1A55.8 1A56.4 1A57.8 1A58.4 1A5F.0 1A60.4 1A61.0",
     "1A62.4 1A63.0 1A65.4 1A6D.8 1A73.4 1A7D.0 1A7F.4 1A80.0 1AB0.4 1ACF.0 1B00.4 1B04.8 1B05.0",
     "1B34.4 1B3B.8 1B3C.4 1B3D.8 1B42.4 1B43.8 1B45.0 1B6B.4 1B74.0 1B80.4 1B82.8 1B83.0 1BA1.8",
     "1BA2.4 1BA6.8 1BA8.4 1BAA.8 1BAB.4 1BAE.0 1BE6.4 1BE7.8 1BE8.4 1BEA.8 1BED.4 1BEE.8 1BEF.4",
     "1BF2.8 1BF4.0 1C24.8 1C2C.4 1C34.8 1C36.4 1C38.0 1CD0.4 1CD3.0 1CD4.4 1CE1.8 1CE2.4 1CE9.0",
     "1CED.4 1CEE.0 1CF4.4 1CF5.0 1CF7.8 1CF8.4 1CFA.0 1DC0.4 1E00.0 200B.3 200C.4 200D.5 200E.3",
     "2010.0 2028.3 202F.0 2060.3 2070.0 20D0.4 20F1.0 2CEF.4 2CF2.0 2D7F.4 2D80.0 2DE0.4 2E00.0",
     "302A.4 3030.0 3099.4 309B.0 A66F.4 A673.0 A674.4 A67E.0 A69E.4 A6A0.0 A6F0.4 A6F2.0 A802.4",
     "A803.0 A806.4 A807.0 A80B.4 A80C.0 A823.8 A825.4 A827.8 A828.0 A82C.4 A82D.0 A880.8 A882.0",
     "A8B4.8 A8C4.4 A8C6.0 A8E0.4 A8F2.0 A8FF.4 A900.0 A926.4 A92E.0 A947.4 A952.8 A954.0 A960.9",
     "A97D.0 A980.4 A983.8 A984.0 A9B3.4 A9B4.8 A9B6.4 A9BA.8 A9BC.4 A9BE.8 A9C1.0 A9E5.4 A9E6.0",
     "AA29.4 AA2F.8 AA31.4 AA33.8 AA35.4 AA37.0 AA43.4 AA44.0 AA4C.4 AA4D.8 AA4E.0 AA7C.4 AA7D.0",
     "AAB0.4 AAB1.0 AAB2.4 AAB5.0 AAB7.4 AAB9.0 AABE.4 AAC0.0 AAC1.4 AAC2.0 AAEB.8 AAEC.4 AAEE.8",
     "AAF0.0 AAF5.8 AAF6.4 AAF7.0 ABE3.8 ABE5.4 ABE6.8 ABE8.4 ABE9.8 ABEB.0 ABEC.8 ABED.4 ABEE.0",
     "AC00.C D7A4.0 D7B0.A D7C7.0 D7CB.B D7FC.0 FB1E.4 FB1F.0 FE00.4 FE10.0 FE20.4 FE30.0 FEFF.3",
     "FF00.0 FF9E.4 FFA0.0 FFF0.3 FFFC.0 101FD.4 101FE.0 102E0.4 102E1.0 10376.4 1037B.0 10A01.4",
     "10A04.0 10A05.4 10A07.0 10A0C.4 10A10.0 10A38.4 10A3B.0 10A3F.4 10A40.0 10AE5.4 10AE7.0",
     "10D24.4 10D28.0 10EAB.4 10EAD.0 10EFD.4 10F00.0 10F46.4 10F51.0 10F82.4 10F86.0 11000.8",
     "11001.4 11002.8 11003.0 11038.4 11047.0 11070.4 11071.0 11073.4 11075.0 1107F.4 11082.8",
     "11083.0 110B0.8 110B3.4 110B7.8 110B9.4 110BB.0 110BD.7 110BE.0 110C2.4 110C3.0 110CD.7",
     "110CE.0 11100.4 11103.0 11127.4 1112C.8 1112D.4 11135.0 11145.8 11147.0 11173.4 11174.0",
     "11180.4 11182.8 11183.0 111B3.8 111B6.4 111BF.8 111C1.0 111C2.7 111C4.0 111C9.4 111CD.0",
     "111CE.8 111CF.4 111D0.0 1122C.8 1122F.4 11232.8 11234.4 11235.8 11236.4 11238.0 1123E.4",
     "1123F.0 11241.4 11242.0 112DF.4 112E0.8 112E3.4 112EB.0 11300.4 11302.8 11304.0 1133B.4",
     "1133D.0 1133E.4 1133F.8 11340.4 11341.8 11345.0 11347.8 11349.0 1134B.8 1134E.0 11357.4",
     "11358.0 11362.8 11364.0 11366.4 1136D.0 11370.4 11375.0 11435.8 11438.4 11440.8 11442.4",
     "11445.8 11446.4 11447.0 1145E.4 1145F.0 114B0.4 114B1.8 114B3.4 114B9.8 114BA.4 114BB.8",
     "114BD.4 114BE.8 114BF.4 114C1.8 114C2.4 114C4.0 115AF.4 115B0.8 115B2.4 115B6.0 115B8.8",
     "115BC.4 115BE.8 115BF.4 115C1.0 115DC.4 115DE.0 11630.8 11633.4 1163B.8 1163D.4 1163E.8",
     "1163F.4 11641.0 116AB.4 116AC.8 116AD.4 116AE.8 116B0.4 116B6.8 116B7.4 116B8.0 1171D.4",
     "11720.0 11722.4 11726.8 11727.4 1172C.0 1182C.8 1182F.4 11838.8 11839.4 1183B.0 11930.4",
     "11931.8 11936.0 11937.8 11939.0 1193B.4 1193D.8 1193E.4 1193F.7 11940.8 11941.7 11942.8",
     "11943.4 11944.0 119D1.8 119D4.4 119D8.0 119DA.4 119DC.8 119E0.4 119E1.0 119E4.8 119E5.0",
     "11A01.4 11A0B.0 11A33.4 11A39.8 11A3A.7 11A3B.4 11A3F.0 11A47.4 11A48.0 11A51.4 11A57.8",
     "11A59.4 11A5C.0 11A84.7 11A8A.4 11A97.8 11A98.4 11A9A.0 11C2F.8 11C30.4 11C37.0 11C38.4",
     "11C3E.8 11C3F.4 11C40.0 11C92.4 11CA8.0 11CA9.8 11CAA.4 11CB1.8 11CB2.4 11CB4.8 11CB5.4",
     "11CB7.0 11D31.4 11D37.0 11D3A.4 11D3B.0 11D3C.4 11D3E.0 11D3F.4 11D46.7 11D47.4 11D48.0",
     "11D8A.8 11D8F.0 11D90.4 11D92.0 11D93.8 11D95.4 11D96.8 11D97.4 11D98.0 11EF3.4 11EF5.8",
     "11EF7.0 11F00.4 11F02.7 11F03.8 11F04.0 11F34.8 11F36.4 11F3B.0 11F3E.8 11F40.4 11F41.8",
     "11F42.4 11F43.0 13430.3 13440.4 13441.0 13447.4 13456.0 16AF0.4 16AF5.0 16B30.4 16B37.0",
     "16F4F.4 16F50.0 16F51.8 16F88.0 16F8F.4 16F93.0 16FE4.4 16FE5.0 16FF0.8 16FF2.0 1BC9D.4",
     "1BC9F.0 1BCA0.3 1BCA4.0 1CF00.4 1CF2E.0 1CF30.4 1CF47.0 1D165.4 1D166.8 1D167.4 1D16A.0",
     "1D16D.8 1D16E.4 1D173.3 1D17B.4 1D183.0 1D185.4 1D18C.0 1D1AA.4 1D1AE.0 1D242.4 1D245.0",
     "1DA00.4 1DA37.0 1DA3B.4 1DA6D.0 1DA75.4 1DA76.0 1DA84.4 1DA85.0 1DA9B.4 1DAA0.0 1DAA1.4",
     "1DAB0.0 1E000.4 1E007.0 1E008.4 1E019.0 1E01B.4 1E022.0 1E023.4 1E025.0 1E026.4 1E02B.0",
     "1E08F.4 1E090.0 1E130.4 1E137.0 1E2AE.4 1E2AF.0 1E2EC.4 1E2F0.0 1E4EC.4 1E4F0.0 1E8D0.4",
     "1E8D7.0 1E944.4 1E94B.0 1F1E6.6 1F200.0 1F3FB.4 1F400.0 E0000.3 E0020.4 E0080.3 E0100.4",
     "E01F0.3 E1000.0"]

/-- The break classes, read once. -/
def breakClasses : CodeMap := CodeMap.ofText breakClassText

/-- The class a number of the table stands for. -/
def BreakClass.ofNumber : Nat → BreakClass
  | 1 => .carriageReturn
  | 2 => .lineFeed
  | 3 => .control
  | 4 => .extend
  | 5 => .joiner
  | 6 => .regionalIndicator
  | 7 => .prepend
  | 8 => .spacingMark
  | 9 => .leadingJamo
  | 10 => .vowelJamo
  | 11 => .trailingJamo
  | 12 => .syllable
  | _ => .other

/-- The break class of a character. Within ASCII the controls, the carriage return and the line
feed have classes of their own; a Hangul syllable is closed when it ends in a consonant. -/
def breakClass (c : Char) : BreakClass :=
  let code := c.toNat
  if code < 0x7F then
    if code = 0x0D then .carriageReturn
    else if code = 0x0A then .lineFeed
    else if code < 0x20 then .control
    else .other
  else
    match BreakClass.ofNumber (breakClasses.get code) with
    | .syllable => if (code - 0xAC00) % 28 = 0 then .syllable else .closedSyllable
    | other => other

/-- The bounds of the runs of extended pictographic characters. -/
def pictographicText : String :=
  String.intercalate " "
    ["A9 AA AE AF 203C 203D 2049 204A 2122 2123 2139 213A 2194 219A 21A9 21AB 231A 231C 2328 2329",
     "2388 2389 23CF 23D0 23E9 23F4 23F8 23FB 24C2 24C3 25AA 25AC 25B6 25B7 25C0 25C1 25FB 25FF",
     "2600 2606 2607 2613 2614 2686 2690 2706 2708 2713 2714 2715 2716 2717 271D 271E 2721 2722",
     "2728 2729 2733 2735 2744 2745 2747 2748 274C 274D 274E 274F 2753 2756 2757 2758 2763 2768",
     "2795 2798 27A1 27A2 27B0 27B1 27BF 27C0 2934 2936 2B05 2B08 2B1B 2B1D 2B50 2B51 2B55 2B56",
     "3030 3031 303D 303E 3297 3298 3299 329A 1F000 1F100 1F10D 1F110 1F12F 1F130 1F16C 1F172",
     "1F17E 1F180 1F18E 1F18F 1F191 1F19B 1F1AD 1F1E6 1F201 1F210 1F21A 1F21B 1F22F 1F230 1F232",
     "1F23B 1F23C 1F240 1F249 1F3FB 1F400 1F53E 1F546 1F650 1F680 1F700 1F774 1F780 1F7D5 1F800",
     "1F80C 1F810 1F848 1F850 1F85A 1F860 1F888 1F890 1F8AE 1F900 1F90C 1F93B 1F93C 1F946 1F947",
     "1FB00 1FC00 1FFFE"]

/-- The extended pictographic characters. -/
def pictographic : CodeSet := CodeSet.ofText pictographicText

/-- Whether a character is extended pictographic. None is below U+00A9. -/
def isPictographic (c : Char) : Bool := c.toNat ≥ 0xA9 && pictographic.contains c.toNat

/-- What a cluster being read remembers of its characters so far. -/
structure ClusterTail where
  last : BreakClass
  afterPictograph : Bool
  afterPictographJoiner : Bool
  oddIndicators : Bool

/-- The memory of a cluster that has just the one character. -/
def ClusterTail.first (c : Char) : ClusterTail :=
  let cls := breakClass c
  ⟨cls, isPictographic c, false, cls == .regionalIndicator⟩

/-- The memory once a character has joined the cluster. -/
def ClusterTail.extend (tail : ClusterTail) (c : Char) : ClusterTail :=
  let cls := breakClass c
  { last := cls
    afterPictograph := isPictographic c || (tail.afterPictograph && cls == .extend)
    afterPictographJoiner := tail.afterPictograph && cls == .joiner
    oddIndicators := cls == .regionalIndicator && !(tail.last == .regionalIndicator && tail.oddIndicators) }

/-- Whether the character joins the cluster that ends as `tail` says. -/
def joinsCluster (tail : ClusterTail) (c : Char) : Bool :=
  let next := breakClass c
  match tail.last, next with
  | .carriageReturn, .lineFeed => true
  | .carriageReturn, _ | .lineFeed, _ | .control, _ => false
  | _, .carriageReturn | _, .lineFeed | _, .control => false
  | .leadingJamo, .leadingJamo | .leadingJamo, .vowelJamo | .leadingJamo, .syllable
  | .leadingJamo, .closedSyllable => true
  | .syllable, .vowelJamo | .syllable, .trailingJamo | .vowelJamo, .vowelJamo
  | .vowelJamo, .trailingJamo => true
  | .closedSyllable, .trailingJamo | .trailingJamo, .trailingJamo => true
  | _, .extend | _, .joiner | _, .spacingMark => true
  | .prepend, _ => true
  | .joiner, _ => tail.afterPictographJoiner && isPictographic c
  | .regionalIndicator, .regionalIndicator => tail.oddIndicators
  | _, _ => false

/-- The bytes of the characters after a cluster's first that join it. -/
def clusterRest : Nat → ClusterTail → List UInt8 → Nat
  | 0, _, _ => 0
  | fuel + 1, tail, bytes =>
    match bytes with
    | [] => 0
    | _ =>
      let (c, width) := decodeOne bytes
      if width = 0 ∨ (c = replacement ∧ width = 1) then 0
      else if joinsCluster tail c then width + clusterRest fuel (tail.extend c) (bytes.drop width)
      else 0

/-- The number of bytes of the grapheme cluster at the head of the bytes. -/
def clusterWidth (bytes : List UInt8) : Nat :=
  let (c, width) := decodeOne bytes
  if width = 0 then 0
  else if c = replacement ∧ width = 1 then width
  else
    let rest := bytes.drop width
    width + clusterRest rest.length (ClusterTail.first c) rest

end Alembic.Text
