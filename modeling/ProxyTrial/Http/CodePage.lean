import ProxyTrial.Text.Utf8
/-!
# Code pages

A code page has one octet for a character.  Its lower half is ASCII; its upper
half is a table.  An octet without a character is read as U+FFFD.

## Main definitions

* `codePages`: the pages with their names
* `CodePage.decode`: the text of octets
-/

namespace ProxyTrial.Http

/-- A character set with one octet for a character and ASCII in its lower
half. -/
structure CodePage where
  /-- The names of the set, in small letters with underscores. -/
  names : List String
  /-- The characters of the octets from 128 on. -/
  upper : String

/-- The controls that some pages have for the octets from 128 to 159. -/
def controls : String := String.ofList ((List.range 32).map fun i => Char.ofNat (128 + i))

/-- The code pages. -/
def codePages : List CodePage := [
  { names := ["1250", "cp1250", "windows_1250"]
    upper := "€\ufffd‚\ufffd„…†‡\ufffd‰Š‹ŚŤŽŹ\ufffd‘’“”•–—\ufffd™š›śťžź\u00a0ˇ\u02d8Ł¤Ą¦§\u00a8©Ş«¬" ++
      "\u00ad®Ż°±\u02dbł\u00b4µ¶·\u00b8ąş»Ľ\u02ddľżŔÁÂĂÄĹĆÇČÉĘËĚÍÎĎĐŃŇÓÔŐÖ×ŘŮÚŰÜÝŢßŕáâăäĺćçčéęë" ++
      "ěíîďđńňóôőö÷řůúűüýţ\u02d9" },
  { names := ["1251", "cp1251", "windows_1251"]
    upper := "ЂЃ‚ѓ„…†‡€‰Љ‹ЊЌЋЏђ‘’“”•–—\ufffd™љ›њќћџ\u00a0ЎўЈ¤Ґ¦§Ё©Є«¬\u00ad®Ї°±Ііґµ¶·ё№є»јЅѕїАБВГДЕЖЗИ" ++
      "ЙКЛМНОПРСТУФХЦЧШЩЪЫЬЭЮЯабвгдежзийклмнопрстуфхцчшщъыьэюя" },
  { names := ["1252", "cp1252", "windows_1252"]
    upper := "€\ufffd‚ƒ„…†‡ˆ‰Š‹Œ\ufffdŽ\ufffd\ufffd‘’“”•–—\u02dc™š›œ\ufffdžŸ\u00a0¡¢£¤¥¦§\u00a8©ª«¬" ++
      "\u00ad®\u00af°±²³\u00b4µ¶·\u00b8¹º»¼½¾¿ÀÁÂÃÄÅÆÇÈÉÊËÌÍÎÏÐÑÒÓÔÕÖ×ØÙÚÛÜÝÞßàáâãäåæçèéêëìíîïð" ++
      "ñòóôõö÷øùúûüýþÿ" },
  { names := ["1253", "cp1253", "windows_1253"]
    upper := "€\ufffd‚ƒ„…†‡\ufffd‰\ufffd‹\ufffd\ufffd\ufffd\ufffd\ufffd‘’“”•–—\ufffd™\ufffd›\ufffd" ++
      "\ufffd\ufffd\ufffd\u00a0\u0385Ά£¤¥¦§\u00a8©\ufffd«¬\u00ad®―°±²³\u0384µ¶·ΈΉΊ»Ό½ΎΏΐΑΒΓΔΕΖΗ" ++
      "ΘΙΚΛΜΝΞΟΠΡ\ufffdΣΤΥΦΧΨΩΪΫάέήίΰαβγδεζηθικλμνξοπρςστυφχψωϊϋόύώ\ufffd" },
  { names := ["1254", "cp1254", "windows_1254"]
    upper := "€\ufffd‚ƒ„…†‡ˆ‰Š‹Œ\ufffd\ufffd\ufffd\ufffd‘’“”•–—\u02dc™š›œ\ufffd\ufffdŸ\u00a0¡¢£¤¥¦§" ++
      "\u00a8©ª«¬\u00ad®\u00af°±²³\u00b4µ¶·\u00b8¹º»¼½¾¿ÀÁÂÃÄÅÆÇÈÉÊËÌÍÎÏĞÑÒÓÔÕÖ×ØÙÚÛÜİŞßàáâãäåæ" ++
      "çèéêëìíîïğñòóôõö÷øùúûüışÿ" },
  { names := ["1255", "cp1255", "windows_1255"]
    upper := "€\ufffd‚ƒ„…†‡ˆ‰\ufffd‹\ufffd\ufffd\ufffd\ufffd\ufffd‘’“”•–—\u02dc™\ufffd›\ufffd\ufffd" ++
      "\ufffd\ufffd\u00a0¡¢£₪¥¦§\u00a8©×«¬\u00ad®\u00af°±²³\u00b4µ¶·\u00b8¹÷»¼½¾¿\u05b0\u05b1" ++
      "\u05b2\u05b3\u05b4\u05b5\u05b6\u05b7\u05b8\u05b9\ufffd\u05bb\u05bc\u05bd\u05be\u05bf" ++
      "\u05c0\u05c1\u05c2\u05c3\u05f0\u05f1\u05f2\u05f3\u05f4\ufffd\ufffd\ufffd\ufffd\ufffd" ++
      "\ufffd\ufffd\u05d0\u05d1\u05d2\u05d3\u05d4\u05d5\u05d6\u05d7\u05d8\u05d9\u05da\u05db" ++
      "\u05dc\u05dd\u05de\u05df\u05e0\u05e1\u05e2\u05e3\u05e4\u05e5\u05e6\u05e7\u05e8\u05e9" ++
      "\u05ea\ufffd\ufffd\u200e\u200f\ufffd" },
  { names := ["1256", "cp1256", "windows_1256"]
    upper := "€\u067e‚ƒ„…†‡ˆ‰\u0679‹Œ\u0686\u0698\u0688\u06af‘’“”•–—\u06a9™\u0691›œ\u200c\u200d\u06ba" ++
      "\u00a0،¢£¤¥¦§\u00a8©\u06be«¬\u00ad®\u00af°±²³\u00b4µ¶·\u00b8¹\u061b»¼½¾\u061f\u06c1" ++
      "\u0621\u0622\u0623\u0624\u0625\u0626\u0627\u0628\u0629\u062a\u062b\u062c\u062d\u062e" ++
      "\u062f\u0630\u0631\u0632\u0633\u0634\u0635\u0636×\u0637\u0638\u0639\u063a\u0640\u0641" ++
      "\u0642\u0643à\u0644â\u0645\u0646\u0647\u0648çèéêë\u0649\u064aîï\u064b\u064c\u064d\u064eô" ++
      "\u064f\u0650÷\u0651ù\u0652ûü\u200e\u200f\u06d2" },
  { names := ["1257", "cp1257", "windows_1257"]
    upper := "€\ufffd‚\ufffd„…†‡\ufffd‰\ufffd‹\ufffd\u00a8ˇ\u00b8\ufffd‘’“”•–—\ufffd™\ufffd›\ufffd" ++
      "\u00af\u02db\ufffd\u00a0\ufffd¢£¤\ufffd¦§Ø©Ŗ«¬\u00ad®Æ°±²³\u00b4µ¶·ø¹ŗ»¼½¾æĄĮĀĆÄÅĘĒČÉŹĖĢ" ++
      "ĶĪĻŠŃŅÓŌÕÖ×ŲŁŚŪÜŻŽßąįāćäåęēčéźėģķīļšńņóōõö÷ųłśūüżž\u02d9" },
  { names := ["1258", "cp1258", "windows_1258"]
    upper := "€\ufffd‚ƒ„…†‡ˆ‰\ufffd‹Œ\ufffd\ufffd\ufffd\ufffd‘’“”•–—\u02dc™\ufffd›œ\ufffd\ufffdŸ\u00a0" ++
      "¡¢£¤¥¦§\u00a8©ª«¬\u00ad®\u00af°±²³\u00b4µ¶·\u00b8¹º»¼½¾¿ÀÁÂĂÄÅÆÇÈÉÊË\u0300ÍÎÏĐÑ\u0309ÓÔƠ" ++
      "Ö×ØÙÚÛÜƯ\u0303ßàáâăäåæçèéêë\u0301íîïđñ\u0323óôơö÷øùúûüư₫ÿ" },
  { names := ["csisolatin2", "iso8859_2", "iso_8859_2", "iso_8859_2_1987", "iso_ir_101", "l2",
      "latin2"]
    upper := controls ++
      "\u00a0Ą\u02d8Ł¤ĽŚ§\u00a8ŠŞŤŹ\u00adŽŻ°ą\u02dbł\u00b4ľśˇ\u00b8šşťź\u02ddžżŔÁÂĂÄĹĆÇČÉĘËĚÍÎĎ" ++
      "ĐŃŇÓÔŐÖ×ŘŮÚŰÜÝŢßŕáâăäĺćçčéęëěíîďđńňóôőö÷řůúűüýţ\u02d9" },
  { names := ["csisolatin3", "iso8859_3", "iso_8859_3", "iso_8859_3_1988", "iso_ir_109", "l3",
      "latin3"]
    upper := controls ++
      "\u00a0Ħ\u02d8£¤\ufffdĤ§\u00a8İŞĞĴ\u00ad\ufffdŻ°ħ²³\u00b4µĥ·\u00b8ışğĵ½\ufffdżÀÁÂ\ufffdÄĊ" ++
      "ĈÇÈÉÊËÌÍÎÏ\ufffdÑÒÓÔĠÖ×ĜÙÚÛÜŬŜßàáâ\ufffdäċĉçèéêëìíîï\ufffdñòóôġö÷ĝùúûüŭŝ\u02d9" },
  { names := ["csisolatin4", "iso8859_4", "iso_8859_4", "iso_8859_4_1988", "iso_ir_110", "l4",
      "latin4"]
    upper := controls ++
      "\u00a0ĄĸŖ¤ĨĻ§\u00a8ŠĒĢŦ\u00adŽ\u00af°ą\u02dbŗ\u00b4ĩļˇ\u00b8šēģŧŊžŋĀÁÂÃÄÅÆĮČÉĘËĖÍÎĪĐŅŌĶÔ" ++
      "ÕÖ×ØŲÚÛÜŨŪßāáâãäåæįčéęëėíîīđņōķôõö÷øųúûüũū\u02d9" },
  { names := ["csisolatincyrillic", "cyrillic", "iso8859_5", "iso_8859_5", "iso_8859_5_1988",
      "iso_ir_144"]
    upper := controls ++
      "\u00a0ЁЂЃЄЅІЇЈЉЊЋЌ\u00adЎЏАБВГДЕЖЗИЙКЛМНОПРСТУФХЦЧШЩЪЫЬЭЮЯабвгдежзийклмнопрстуфхцчшщъыьэ" ++
      "юя№ёђѓєѕіїјљњћќ§ўџ" },
  { names := ["arabic", "asmo_708", "csisolatinarabic", "ecma_114", "iso8859_6", "iso_8859_6",
      "iso_8859_6_1987", "iso_ir_127"]
    upper := controls ++
      "\u00a0\ufffd\ufffd\ufffd¤\ufffd\ufffd\ufffd\ufffd\ufffd\ufffd\ufffd،\u00ad\ufffd\ufffd" ++
      "\ufffd\ufffd\ufffd\ufffd\ufffd\ufffd\ufffd\ufffd\ufffd\ufffd\ufffd\u061b\ufffd\ufffd" ++
      "\ufffd\u061f\ufffd\u0621\u0622\u0623\u0624\u0625\u0626\u0627\u0628\u0629\u062a\u062b" ++
      "\u062c\u062d\u062e\u062f\u0630\u0631\u0632\u0633\u0634\u0635\u0636\u0637\u0638\u0639" ++
      "\u063a\ufffd\ufffd\ufffd\ufffd\ufffd\u0640\u0641\u0642\u0643\u0644\u0645\u0646\u0647" ++
      "\u0648\u0649\u064a\u064b\u064c\u064d\u064e\u064f\u0650\u0651\u0652\ufffd\ufffd\ufffd" ++
      "\ufffd\ufffd\ufffd\ufffd\ufffd\ufffd\ufffd\ufffd\ufffd\ufffd" },
  { names := ["csisolatingreek", "ecma_118", "elot_928", "greek", "greek8", "iso8859_7",
      "iso_8859_7", "iso_8859_7_1987", "iso_ir_126"]
    upper := controls ++
      "\u00a0‘’£€₯¦§\u00a8©ͺ«¬\u00ad\ufffd―°±²³\u0384\u0385Ά·ΈΉΊ»Ό½ΎΏΐΑΒΓΔΕΖΗΘΙΚΛΜΝΞΟΠΡ\ufffdΣΤ" ++
      "ΥΦΧΨΩΪΫάέήίΰαβγδεζηθικλμνξοπρςστυφχψωϊϋόύώ\ufffd" },
  { names := ["csisolatinhebrew", "hebrew", "iso8859_8", "iso_8859_8", "iso_8859_8_1988",
      "iso_ir_138"]
    upper := controls ++
      "\u00a0\ufffd¢£¤¥¦§\u00a8©×«¬\u00ad®\u00af°±²³\u00b4µ¶·\u00b8¹÷»¼½¾\ufffd\ufffd\ufffd" ++
      "\ufffd\ufffd\ufffd\ufffd\ufffd\ufffd\ufffd\ufffd\ufffd\ufffd\ufffd\ufffd\ufffd\ufffd" ++
      "\ufffd\ufffd\ufffd\ufffd\ufffd\ufffd\ufffd\ufffd\ufffd\ufffd\ufffd\ufffd\ufffd\ufffd" ++
      "\ufffd‗\u05d0\u05d1\u05d2\u05d3\u05d4\u05d5\u05d6\u05d7\u05d8\u05d9\u05da\u05db\u05dc" ++
      "\u05dd\u05de\u05df\u05e0\u05e1\u05e2\u05e3\u05e4\u05e5\u05e6\u05e7\u05e8\u05e9\u05ea" ++
      "\ufffd\ufffd\u200e\u200f\ufffd" },
  { names := ["csisolatin5", "iso8859_9", "iso_8859_9", "iso_8859_9_1989", "iso_ir_148", "l5",
      "latin5"]
    upper := controls ++
      "\u00a0¡¢£¤¥¦§\u00a8©ª«¬\u00ad®\u00af°±²³\u00b4µ¶·\u00b8¹º»¼½¾¿ÀÁÂÃÄÅÆÇÈÉÊËÌÍÎÏĞÑÒÓÔÕÖ×ØÙ" ++
      "ÚÛÜİŞßàáâãäåæçèéêëìíîïğñòóôõö÷øùúûüışÿ" },
  { names := ["csisolatin6", "iso8859_10", "iso_8859_10", "iso_8859_10_1992", "iso_ir_157", "l6",
      "latin6"]
    upper := controls ++
      "\u00a0ĄĒĢĪĨĶ§ĻĐŠŦŽ\u00adŪŊ°ąēģīĩķ·ļđšŧž―ūŋĀÁÂÃÄÅÆĮČÉĘËĖÍÎÏÐŅŌÓÔÕÖŨØŲÚÛÜÝÞßāáâãäåæįčéęëėí" ++
      "îïðņōóôõöũøųúûüýþĸ" },
  { names := ["iso8859_11", "iso_8859_11", "iso_8859_11_2001", "thai"]
    upper := controls ++
      "\u00a0กขฃคฅฆงจฉชซฌญฎฏฐฑฒณดตถทธนบปผฝพฟภมยรฤลฦวศษสหฬอฮฯะ\u0e31าำ\u0e34\u0e35\u0e36\u0e37" ++
      "\u0e38\u0e39\u0e3a\ufffd\ufffd\ufffd\ufffd฿เแโใไๅๆ\u0e47\u0e48\u0e49\u0e4a\u0e4b\u0e4c" ++
      "\u0e4d\u0e4e๏๐๑๒๓๔๕๖๗๘๙๚๛\ufffd\ufffd\ufffd\ufffd" },
  { names := ["iso8859_13", "iso_8859_13", "l7", "latin7"]
    upper := controls ++
      "\u00a0”¢£¤„¦§Ø©Ŗ«¬\u00ad®Æ°±²³“µ¶·ø¹ŗ»¼½¾æĄĮĀĆÄÅĘĒČÉŹĖĢĶĪĻŠŃŅÓŌÕÖ×ŲŁŚŪÜŻŽßąįāćäåęēčéźėģķ" ++
      "īļšńņóōõö÷ųłśūüżž’" },
  { names := ["iso8859_14", "iso_8859_14", "iso_8859_14_1998", "iso_celtic", "iso_ir_199", "l8",
      "latin8"]
    upper := controls ++
      "\u00a0Ḃḃ£ĊċḊ§Ẁ©ẂḋỲ\u00ad®ŸḞḟĠġṀṁ¶ṖẁṗẃṠỳẄẅṡÀÁÂÃÄÅÆÇÈÉÊËÌÍÎÏŴÑÒÓÔÕÖṪØÙÚÛÜÝŶßàáâãäåæçèéêëìí" ++
      "îïŵñòóôõöṫøùúûüýŷÿ" },
  { names := ["iso8859_15", "iso_8859_15", "l9", "latin9"]
    upper := controls ++
      "\u00a0¡¢£€¥Š§š©ª«¬\u00ad®\u00af°±²³Žµ¶·ž¹º»ŒœŸ¿ÀÁÂÃÄÅÆÇÈÉÊËÌÍÎÏÐÑÒÓÔÕÖ×ØÙÚÛÜÝÞßàáâãäåæçè" ++
      "éêëìíîïðñòóôõö÷øùúûüýþÿ" },
  { names := ["iso8859_16", "iso_8859_16", "iso_8859_16_2001", "iso_ir_226", "l10", "latin10"]
    upper := controls ++
      "\u00a0ĄąŁ€„Š§š©Ș«Ź\u00adźŻ°±ČłŽ”¶·žčș»ŒœŸżÀÁÂĂÄĆÆÇÈÉÊËÌÍÎÏĐŃÒÓÔŐÖŚŰÙÚÛÜĘȚßàáâăäćæçèéêëìí" ++
      "îïđńòóôőöśűùúûüęțÿ" },
  { names := ["cskoi8r", "koi8_r"]
    upper := "─│┌┐└┘├┤┬┴┼▀▄█▌▐░▒▓⌠■∙√≈≤≥\u00a0⌡°²·÷═║╒ё╓╔╕╖╗╘╙╚╛╜╝╞╟╠╡Ё╢╣╤╥╦╧╨╩╪╫╬©юабцдефгхийклмнопяр" ++
      "стужвьызшэщчъЮАБЦДЕФГХИЙКЛМНОПЯРСТУЖВЬЫЗШЭЩЧЪ" },
  { names := ["koi8_u"]
    upper := "─│┌┐└┘├┤┬┴┼▀▄█▌▐░▒▓⌠■∙√≈≤≥\u00a0⌡°²·÷═║╒ёє╔ії╗╘╙╚╛ґ╝╞╟╠╡ЁЄ╣ІЇ╦╧╨╩╪Ґ╬©юабцдефгхийклмнопяр" ++
      "стужвьызшэщчъЮАБЦДЕФГХИЙКЛМНОПЯРСТУЖВЬЫЗШЭЩЧЪ" },
  { names := ["iso_ir_166", "tis620", "tis_620", "tis_620_0", "tis_620_2529_0", "tis_620_2529_1"]
    upper := controls ++
      "\ufffdกขฃคฅฆงจฉชซฌญฎฏฐฑฒณดตถทธนบปผฝพฟภมยรฤลฦวศษสหฬอฮฯะ\u0e31าำ\u0e34\u0e35\u0e36\u0e37" ++
      "\u0e38\u0e39\u0e3a\ufffd\ufffd\ufffd\ufffd฿เแโใไๅๆ\u0e47\u0e48\u0e49\u0e4a\u0e4b\u0e4c" ++
      "\u0e4d\u0e4e๏๐๑๒๓๔๕๖๗๘๙๚๛\ufffd\ufffd\ufffd\ufffd" },
  { names := ["437", "cp437", "cspc8codepage437", "ibm437"]
    upper := "ÇüéâäàåçêëèïîìÄÅÉæÆôöòûùÿÖÜ¢£¥₧ƒáíóúñÑªº¿⌐¬½¼¡«»░▒▓│┤╡╢╖╕╣║╗╝╜╛┐└┴┬├─┼╞╟╚╔╩╦╠═╬╧╨╤╥╙╘╒╓╫" ++
      "╪┘┌█▄▌▐▀αßΓπΣσµτΦΘΩδ∞φε∩≡±≥≤⌠⌡÷≈°∙·√ⁿ²■\u00a0" },
  { names := ["850", "cp850", "cspc850multilingual", "ibm850"]
    upper := "ÇüéâäàåçêëèïîìÄÅÉæÆôöòûùÿÖÜø£Ø×ƒáíóúñÑªº¿®¬½¼¡«»░▒▓│┤ÁÂÀ©╣║╗╝¢¥┐└┴┬├─┼ãÃ╚╔╩╦╠═╬¤ðÐÊËÈıÍÎ" ++
      "Ï┘┌█▄¦Ì▀ÓßÔÒõÕµþÞÚÛÙýÝ\u00af\u00b4\u00ad±‗¾¶§÷\u00b8°\u00a8·¹³²■\u00a0" },
  { names := ["852", "cp852", "cspcp852", "ibm852"]
    upper := "ÇüéâäůćçłëŐőîŹÄĆÉĹĺôöĽľŚśÖÜŤťŁ×čáíóúĄąŽžĘę¬źČş«»░▒▓│┤ÁÂĚŞ╣║╗╝Żż┐└┴┬├─┼Ăă╚╔╩╦╠═╬¤đĐĎËďŇÍÎ" ++
      "ě┘┌█▄ŢŮ▀ÓßÔŃńňŠšŔÚŕŰýÝţ\u00b4\u00ad\u02dd\u02dbˇ\u02d8§÷\u00b8°\u00a8\u02d9űŘř■\u00a0" },
  { names := ["855", "cp855", "csibm855", "ibm855"]
    upper := "ђЂѓЃёЁєЄѕЅіІїЇјЈљЉњЊћЋќЌўЎџЏюЮъЪаАбБцЦдДеЕфФгГ«»░▒▓│┤хХиИ╣║╗╝йЙ┐└┴┬├─┼кК╚╔╩╦╠═╬¤лЛмМнНоО" ++
      "п┘┌█▄Пя▀ЯрРсСтТуУжЖвВьЬ№\u00adыЫзЗшШэЭщЩчЧ§■\u00a0" },
  { names := ["858", "cp858", "csibm858", "ibm858"]
    upper := "ÇüéâäàåçêëèïîìÄÅÉæÆôöòûùÿÖÜø£Ø×ƒáíóúñÑªº¿®¬½¼¡«»░▒▓│┤ÁÂÀ©╣║╗╝¢¥┐└┴┬├─┼ãÃ╚╔╩╦╠═╬¤ðÐÊËÈ€ÍÎ" ++
      "Ï┘┌█▄¦Ì▀ÓßÔÒõÕµþÞÚÛÙýÝ\u00af\u00b4\u00ad±‗¾¶§÷\u00b8°\u00a8·¹³²■\u00a0" },
  { names := ["866", "cp866", "csibm866", "ibm866"]
    upper := "АБВГДЕЖЗИЙКЛМНОПРСТУФХЦЧШЩЪЫЬЭЮЯабвгдежзийклмноп░▒▓│┤╡╢╖╕╣║╗╝╜╛┐└┴┬├─┼╞╟╚╔╩╦╠═╬╧╨╤╥╙╘╒╓╫" ++
      "╪┘┌█▄▌▐▀рстуфхцчшщъыьэюяЁёЄєЇїЎў°∙·√№¤■\u00a0" },
  { names := ["mac_roman", "macintosh", "macroman"]
    upper := "ÄÅÇÉÑÖÜáàâäãåçéèêëíìîïñóòôöõúùûü†°¢£§•¶ß®©™\u00b4\u00a8≠ÆØ∞±≤≥¥µ∂∑∏π∫ªºΩæø¿¡¬√ƒ≈∆«»…" ++
      "\u00a0ÀÃÕŒœ–—“”‘’÷◊ÿŸ⁄€‹›ﬁﬂ‡·‚„‰ÂÊÁËÈÍÎÏÌÓÔ\uf8ffÒÚÛÙıˆ\u02dc\u00af\u02d8\u02d9\u02da" ++
      "\u00b8\u02dd\u02dbˇ" },
  { names := ["mac_cyrillic", "maccyrillic"]
    upper := "АБВГДЕЖЗИЙКЛМНОПРСТУФХЦЧШЩЪЫЬЭЮЯ†°Ґ£§•¶І®©™Ђђ≠Ѓѓ∞±≤≥іµґЈЄєЇїЉљЊњјЅ¬√ƒ≈∆«»…\u00a0ЋћЌќѕ–—“" ++
      "”‘’÷„ЎўЏџ№Ёёяабвгдежзийклмнопрстуфхцчшщъыьэю€" }]

/-- The text of octets in a code page. -/
def CodePage.decode (page : CodePage) (bs : Bytes) : String :=
  let upper := page.upper.toList.toArray
  String.ofList (bs.map fun b =>
    if b < 128 then Char.ofNat b.toNat else (upper[b.toNat - 128]?).getD '\ufffd')

end ProxyTrial.Http
