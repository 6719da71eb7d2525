import BundleGraph.Text.CaseMap

/-!
# Characters that differ only in case

Characters that are equal when case is ignored form classes of up to four members, such as
`k`, `K` and the sign for kelvin.  A map that leads around each class gives all members
from any of them.
-/

namespace BundleGraph.Unicode

open Text

/-- The next member of the class of a character, and the first one after the last. -/
def nextVariant : CaseMap :=
  .ofLines [
    "41:5a+20 61:6a-20 6b:6c+20bf,-20 6d:72-20 73:74+10c,-20 75:7a-20 b5+2e7 c0:d6+20 d8:de+20",
    "df:e0+1dbf,-20 e1:e4-20 e5:e6+2046,-20 e7:f6-20 f8:fe-20 ff:100+79,+1 101:12f-1,+1 132:137+1,-1",
    "139:148+1,-1 14a:177+1,-1 178:179-79,+1 17a:17e-1,+1 17f:180-12c,+c3 181:182+d2,+1 183:185-1,+1",
    "186:187+ce,+1 188:189-1,+cd 18a:18b+cd,+1 18c-1 18e:18f+4f,+ca 190:191+cb,+1 192:193-1,+cd",
    "194:195+cf,+61 196:197+d3,+d1 198:199+1,-1 19a:19b+a3,+a641 19c:19d+d3,+d5 19e:19f+82,+d6",
    "1a0:1a5+1,-1 1a6:1a7+da,+1 1a8:1a9-1,+da 1ac:1ad+1,-1 1ae:1af+da,+1 1b0:1b1-1,+d9 1b2:1b3+d9,+1",
    "1b4:1b6-1,+1 1b7:1b8+db,+1 1b9-1 1bc:1bd+1,-1 1bf+38 1c4:1c5+1 1c6:1c7-2,+1 1c8:1ca+1,-2",
    "1cb:1cd+1,-2 1ce:1dc-1,+1 1dd:1de-4f,+1 1df:1ef-1,+1 1f1:1f2+1 1f3:1f4-2,+1 1f5:1f6-1,-61",
    "1f7:1f8-38,+1 1f9:21f-1,+1 220-82 222:233+1,-1 23a:23b+2a2b,+1 23c:23d-1,-a3 23e:23f+2a28,+2a3f",
    "240:241+2a3f,+1 242:243-1,-c3 244:245+45,+47 246:24f+1,-1 250:251+2a1f,+2a1c 252:253+2a1e,-d2",
    "254-ce 256:257-cd 259-ca 25b:25c-cb,+a54f 260:261-cd,+a54b 263:264-cf,+a567 265:266+a528,+a544",
    "268:269-d1,-d3 26a:26b+a544,+29f7 26c+a541 26f-d3 271:272+29fd,-d5 275-d6 27d+29e7 280-da",
    "282:283+a543,-da 287:288+a52a,-da 289:28a-45,-d9 28b:28c-d9,-47 292-db 29d:29e+a515,+a512 345+54",
    "370:373+1,-1 376:377+1,-1 37b:37d+82 37f+74 386+26 388:38a+25 38c+40 38e:38f+3f 390:391+1c43,+20",
    "392:3a1+20 3a3:3a4+1f,+20 3a5:3ab+20 3ac:3ad-26,-25 3ae:3af-25 3b0:3b1+1c33,-20 3b2:3b3+1e,-20",
    "3b4:3b6-20,+40 3b7:3b8-20,+19 3b9:3ba+1c05,+36 3bb:3bd-20,-307 3be:3bf-20 3c0:3c1+16,+30",
    "3c2:3c3+1,-20 3c4:3c5-20 3c6:3c7+f,-20 3c8:3ca-20,+1d5d 3cb:3cc-20,-40 3cd:3ce-3f 3cf:3d0+8,-3e",
    "3d1+23 3d5:3d6-2f,-36 3d7:3d8-8,+1 3d9:3ef-1,+1 3f0:3f1-56,-50 3f2:3f3+7,-74 3f4:3f5-5c,-60",
    "3f7:3f8+1,-1 3f9:3fa-7,+1 3fb-1 3fd:3ff-82 400:40f+50 410:42f+20 430:431-20 432:433+184e,-20",
    "434:435+184d,-20 436:43d-20 43e:43f+1844,-20 440:441-20,+1842 442:443+1842,-20 444:449-20",
    "44a:44b+183c,-20 44c:44f-20 450:45f-50 460:462+1,-1 463:464+1824,+1 465:481-1,+1 48a:4bf+1,-1",
    "4c0:4c1+f,+1 4c2:4ce-1,+1 4cf:4d0-f,+1 4d1:52f-1,+1 531:556+30 561:586-30 10a0:10c5+1c60",
    "10c7+1c60 10cd+1c60 10d0:10fa+bc0 10fd:10ff+bc0 13a0:13ef+97d0 13f0:13f5+8 13f8:13fd-8",
    "1c80:1c81-186e,-186d 1c82:1c83-1864,-1862 1c84:1c85+1,-1863 1c86:1c87-185c,-1825",
    "1c88:1c89+89c2,+1 1c8a-1 1c90:1cba-bc0 1cbd:1cbf-bc0 1d79+8a04 1d7d+ee6 1d8e+8a38 1e00:1e60+1,-1",
    "1e61:1e62+3a,+1 1e63:1e95-1,+1 1e9b-3b 1e9e-1dbf 1ea0:1eff+1,-1 1f00:1f07+8 1f08:1f0f-8",
    "1f10:1f15+8 1f18:1f1d-8 1f20:1f27+8 1f28:1f2f-8 1f30:1f37+8 1f38:1f3f-8 1f40:1f45+8 1f48:1f4d-8",
    "1f51:1f57+8,+0 1f59:1f5f-8,+0 1f60:1f67+8 1f68:1f6f-8 1f70:1f71+4a 1f72:1f75+56 1f76:1f77+64",
    "1f78:1f79+80 1f7a:1f7b+70 1f7c:1f7d+7e 1f80:1f87+8 1f88:1f8f-8 1f90:1f97+8 1f98:1f9f-8",
    "1fa0:1fa7+8 1fa8:1faf-8 1fb0:1fb1+8 1fb3+9 1fb8:1fb9-8 1fba:1fbb-4a 1fbc-9 1fbe-1c79 1fc3+9",
    "1fc8:1fcb-56 1fcc-9 1fd0:1fd1+8 1fd3-1c43 1fd8:1fd9-8 1fda:1fdb-64 1fe0:1fe1+8 1fe3-1c33 1fe5+7",
    "1fe8:1fe9-8 1fea:1feb-70 1fec-7 1ff3+9 1ff8:1ff9-80 1ffa:1ffb-7e 1ffc-9 2126-1d7d",
    "212a:212b-20df,-2066 2132+1c 214e-1c 2160:216f+10 2170:217f-10 2183:2184+1,-1 24b6:24cf+1a",
    "24d0:24e9-1a 2c00:2c2f+30 2c30:2c5f-30 2c60:2c61+1,-1 2c62:2c63-29f7,-ee6 2c64:2c65-29e7,-2a2b",
    "2c66:2c67-2a28,+1 2c68:2c6c-1,+1 2c6d:2c6e-2a1c,-29fd 2c6f:2c70-2a1f,-2a1e 2c72:2c73+1,-1",
    "2c75:2c76+1,-1 2c7e:2c7f-2a3f 2c80:2ce3+1,-1 2ceb:2cee+1,-1 2cf2:2cf3+1,-1 2d00:2d25-1c60",
    "2d27-1c60 2d2d-1c60 a640:a64a+1,-1 a64b:a64c-89c3,+1 a64d:a66d-1,+1 a680:a69b+1,-1",
    "a722:a72f+1,-1 a732:a76f+1,-1 a779:a77c+1,-1 a77d:a77e-8a04,+1 a77f:a787-1,+1 a78b:a78c+1,-1",
    "a78d-a528 a790:a793+1,-1 a794+30 a796:a7a9+1,-1 a7aa:a7ab-a544,-a54f a7ac:a7ad-a54b,-a541",
    "a7ae-a544 a7b0:a7b1-a512,-a52a a7b2:a7b3-a515,+3a0 a7b4:a7c3+1,-1 a7c4:a7c5-30,-a543",
    "a7c6:a7c7-8a38,+1 a7c8:a7ca-1,+1 a7cb:a7cc-a567,+1 a7cd:a7db-1,+1 a7dc-a641 a7f5:a7f6+1,-1",
    "ab53-3a0 ab70:abbf-97d0 fb05:fb06+1,-1 ff21:ff3a+20 ff41:ff5a-20 10400:10427+28 10428:1044f-28",
    "104b0:104d3+28 104d8:104fb-28 10570:1057a+27 1057c:1058a+27 1058c:10592+27 10594:10595+27",
    "10597:105a1-27 105a3:105b1-27 105b3:105b9-27 105bb:105bc-27 10c80:10cb2+40 10cc0:10cf2-40",
    "10d50:10d65+20 10d70:10d85-20 118a0:118bf+20 118c0:118df-20 16e40:16e5f+20 16e60:16e7f-20",
    "16ea0:16eb8+1b 16ebb:16ed3-1b 1e900:1e921+22 1e922:1e943-22"]

/-- The characters that equal a character when case is ignored; some may be listed twice. -/
def variants (c : Char) : List Char :=
  let second := nextVariant.apply c
  let third := nextVariant.apply second
  [c, second, third, nextVariant.apply third]

end BundleGraph.Unicode
