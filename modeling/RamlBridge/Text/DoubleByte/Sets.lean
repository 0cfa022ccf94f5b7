import RamlBridge.Text.DoubleByte.Chinese
import RamlBridge.Text.DoubleByte.Japanese
import RamlBridge.Text.DoubleByte.Korean
import RamlBridge.Text.DoubleByte.Traditional

/-!
The encodings in which one character takes several bytes, by their names.
-/
namespace RamlBridge.Text

inductive DoubleByteSet where
  | chineseSmall
  | chineseMiddle
  | chineseAll
  | traditional
  | traditionalOther
  | hongKong
  | korean
  | koreanAll
  | shifted
  | shiftedMaker
  | extended
deriving DecidableEq, Repr, Inhabited

namespace DoubleByteSet

open DoubleByte

def named : List (DoubleByteSet × List String) :=
  [(.chineseSmall, ["chinese", "csiso58gb231280", "euc_cn", "euccn", "eucgb2312_cn", "gb2312",
      "gb2312_1980", "gb2312_80", "iso_ir_58", "x_mac_simp_chinese"]),
    (.chineseMiddle, ["936", "cp936", "gbk", "ms936"]),
    (.chineseAll, ["gb18030", "gb18030_2000"]),
    (.traditional, ["big5", "big5_tw", "csbig5", "x_mac_trad_chinese"]),
    (.traditionalOther, ["950", "cp950", "ms950"]),
    (.hongKong, ["big5_hkscs", "big5hkscs", "hkscs"]),
    (.korean, ["euc_kr", "euckr", "korean", "ks_c_5601", "ks_c_5601_1987", "ks_x_1001", "ksc5601",
      "ksx1001", "x_mac_korean"]),
    (.koreanAll, ["949", "cp949", "ms949", "uhc"]),
    (.shifted, ["csshiftjis", "s_jis", "shift_jis", "shiftjis", "sjis", "x_mac_japanese"]),
    (.shiftedMaker, ["932", "cp932", "ms932", "ms_kanji", "mskanji"]),
    (.extended, ["euc_jp", "eucjp", "u_jis", "ujis"])]

def ofName? (name : String) : Option DoubleByteSet :=
  (named.find? fun p => p.2.contains name).map Prod.fst

def next (s : DoubleByteSet) : List UInt8 → Reading :=
  let noSingle (_ : Nat) : Option Char := none
  let one (pair : Nat → Nat → Option Char) (a b : Nat) : Option (List Char) :=
    (pair a b).map ([·])
  match s with
  | .chineseSmall => readPair noSingle (one chineseSmall?)
  | .chineseMiddle => readPair noSingle (one chineseMiddle?)
  | .chineseAll => readQuads
  | .traditional => readPair noSingle (one traditional?)
  | .traditionalOther => readPair noSingle (one traditionalOther?)
  | .hongKong => readPair noSingle hongKong?
  | .korean => readKorean
  | .koreanAll => readPair noSingle (one koreanAll?)
  | .shifted => readPair halfWidth? (one shifted?)
  | .shiftedMaker => readPair makerByte? (one shiftedMaker?)
  | .extended => readExtended

def decode (s : DoubleByteSet) (bytes : List UInt8) : List Char :=
  decodeWith s.next bytes.length bytes

end DoubleByteSet

end RamlBridge.Text
