import TableSync.Unicode.RangeTable

/-!
The IDNA mapping table of UTS 46 for Unicode 17.0. A word is a code point, a status (`v` valid, `d`
deviation, `i` ignored, `m` mapped, `x` disallowed) and for `m` the code points it maps to, in
lower-case hex.
-/

namespace TableSync

inductive IdnaStatus where
  | valid
  | deviation
  | ignored
  | mapped (image : List Nat)
  | disallowed
  deriving DecidableEq, Repr, Inhabited

def idnaMappingText : String :=
  " ".intercalate
    ["0:v 41:m:61 42:m:62 43:m:63 44:m:64 45:m:65 46:m:66 47:m:67 48:m:68 49:m:69 4a:m:6a 4b:m:6b",
     "4c:m:6c 4d:m:6d 4e:m:6e 4f:m:6f 50:m:70 51:m:71 52:m:72 53:m:73 54:m:74 55:m:75 56:m:76 57:m:77",
     "58:m:78 59:m:79 5a:m:7a 5b:v 80:x a0:m:20 a1:v a8:m:20.308 a9:v aa:m:61 ab:v ad:i ae:v",
     "af:m:20.304 b0:v b2:m:32 b3:m:33 b4:m:20.301 b5:m:3bc b6:v b8:m:20.327 b9:m:31 ba:m:6f bb:v",
     "bc:m:31.2044.34 bd:m:31.2044.32 be:m:33.2044.34 bf:v c0:m:e0 c1:m:e1 c2:m:e2 c3:m:e3 c4:m:e4",
     "c5:m:e5 c6:m:e6 c7:m:e7 c8:m:e8 c9:m:e9 ca:m:ea cb:m:eb cc:m:ec cd:m:ed ce:m:ee cf:m:ef d0:m:f0",
     "d1:m:f1 d2:m:f2 d3:m:f3 d4:m:f4 d5:m:f5 d6:m:f6 d7:v d8:m:f8 d9:m:f9 da:m:fa db:m:fb dc:m:fc",
     "dd:m:fd de:m:fe df:d e0:v 100:m:101 101:v 102:m:103 103:v 104:m:105 105:v 106:m:107 107:v",
     "108:m:109 109:v 10a:m:10b 10b:v 10c:m:10d 10d:v 10e:m:10f 10f:v 110:m:111 111:v 112:m:113 113:v",
     "114:m:115 115:v 116:m:117 117:v 118:m:119 119:v 11a:m:11b 11b:v 11c:m:11d 11d:v 11e:m:11f 11f:v",
     "120:m:121 121:v 122:m:123 123:v 124:m:125 125:v 126:m:127 127:v 128:m:129 129:v 12a:m:12b 12b:v",
     "12c:m:12d 12d:v 12e:m:12f 12f:v 130:m:69.307 131:v 132:m:69.6a 134:m:135 135:v 136:m:137 137:v",
     "139:m:13a 13a:v 13b:m:13c 13c:v 13d:m:13e 13e:v 13f:m:6c.b7 141:m:142 142:v 143:m:144 144:v",
     "145:m:146 146:v 147:m:148 148:v 149:m:2bc.6e 14a:m:14b 14b:v 14c:m:14d 14d:v 14e:m:14f 14f:v",
     "150:m:151 151:v 152:m:153 153:v 154:m:155 155:v 156:m:157 157:v 158:m:159 159:v 15a:m:15b 15b:v",
     "15c:m:15d 15d:v 15e:m:15f 15f:v 160:m:161 161:v 162:m:163 163:v 164:m:165 165:v 166:m:167 167:v",
     "168:m:169 169:v 16a:m:16b 16b:v 16c:m:16d 16d:v 16e:m:16f 16f:v 170:m:171 171:v 172:m:173 173:v",
     "174:m:175 175:v 176:m:177 177:v 178:m:ff 179:m:17a 17a:v 17b:m:17c 17c:v 17d:m:17e 17e:v",
     "17f:m:73 180:v 181:m:253 182:m:183 183:v 184:m:185 185:v 186:m:254 187:m:188 188:v 189:m:256",
     "18a:m:257 18b:m:18c 18c:v 18e:m:1dd 18f:m:259 190:m:25b 191:m:192 192:v 193:m:260 194:m:263",
     "195:v 196:m:269 197:m:268 198:m:199 199:v 19c:m:26f 19d:m:272 19e:v 19f:m:275 1a0:m:1a1 1a1:v",
     "1a2:m:1a3 1a3:v 1a4:m:1a5 1a5:v 1a6:m:280 1a7:m:1a8 1a8:v 1a9:m:283 1aa:v 1ac:m:1ad 1ad:v",
     "1ae:m:288 1af:m:1b0 1b0:v 1b1:m:28a 1b2:m:28b 1b3:m:1b4 1b4:v 1b5:m:1b6 1b6:v 1b7:m:292",
     "1b8:m:1b9 1b9:v 1bc:m:1bd 1bd:v 1c4:m:64.17e 1c7:m:6c.6a 1ca:m:6e.6a 1cd:m:1ce 1ce:v 1cf:m:1d0",
     "1d0:v 1d1:m:1d2 1d2:v 1d3:m:1d4 1d4:v 1d5:m:1d6 1d6:v 1d7:m:1d8 1d8:v 1d9:m:1da 1da:v 1db:m:1dc",
     "1dc:v 1de:m:1df 1df:v 1e0:m:1e1 1e1:v 1e2:m:1e3 1e3:v 1e4:m:1e5 1e5:v 1e6:m:1e7 1e7:v 1e8:m:1e9",
     "1e9:v 1ea:m:1eb 1eb:v 1ec:m:1ed 1ed:v 1ee:m:1ef 1ef:v 1f1:m:64.7a 1f4:m:1f5 1f5:v 1f6:m:195",
     "1f7:m:1bf 1f8:m:1f9 1f9:v 1fa:m:1fb 1fb:v 1fc:m:1fd 1fd:v 1fe:m:1ff 1ff:v 200:m:201 201:v",
     "202:m:203 203:v 204:m:205 205:v 206:m:207 207:v 208:m:209 209:v 20a:m:20b 20b:v 20c:m:20d 20d:v",
     "20e:m:20f 20f:v 210:m:211 211:v 212:m:213 213:v 214:m:215 215:v 216:m:217 217:v 218:m:219 219:v",
     "21a:m:21b 21b:v 21c:m:21d 21d:v 21e:m:21f 21f:v 220:m:19e 221:v 222:m:223 223:v 224:m:225 225:v",
     "226:m:227 227:v 228:m:229 229:v 22a:m:22b 22b:v 22c:m:22d 22d:v 22e:m:22f 22f:v 230:m:231 231:v",
     "232:m:233 233:v 23a:m:2c65 23b:m:23c 23c:v 23d:m:19a 23e:m:2c66 23f:v 241:m:242 242:v 243:m:180",
     "244:m:289 245:m:28c 246:m:247 247:v 248:m:249 249:v 24a:m:24b 24b:v 24c:m:24d 24d:v 24e:m:24f",
     "24f:v 2b0:m:68 2b1:m:266 2b2:m:6a 2b3:m:72 2b4:m:279 2b5:m:27b 2b6:m:281 2b7:m:77 2b8:m:79 2b9:v",
     "2d8:m:20.306 2d9:m:20.307 2da:m:20.30a 2db:m:20.328 2dc:m:20.303 2dd:m:20.30b 2de:v 2e0:m:263",
     "2e1:m:6c 2e2:m:73 2e3:m:78 2e4:m:295 2e5:v 340:m:300 341:m:301 342:v 343:m:313 344:m:308.301",
     "345:m:3b9 346:v 34f:i 350:v 370:m:371 371:v 372:m:373 373:v 374:m:2b9 375:v 376:m:377 377:v",
     "378:x 37a:m:20.3b9 37b:v 37e:m:3b 37f:m:3f3 380:x 384:m:20.301 385:m:20.308.301 386:m:3ac",
     "387:m:b7 388:m:3ad 389:m:3ae 38a:m:3af 38b:x 38c:m:3cc 38d:x 38e:m:3cd 38f:m:3ce 390:v 391:m:3b1",
     "392:m:3b2 393:m:3b3 394:m:3b4 395:m:3b5 396:m:3b6 397:m:3b7 398:m:3b8 399:m:3b9 39a:m:3ba",
     "39b:m:3bb 39c:m:3bc 39d:m:3bd 39e:m:3be 39f:m:3bf 3a0:m:3c0 3a1:m:3c1 3a2:x 3a3:m:3c3 3a4:m:3c4",
     "3a5:m:3c5 3a6:m:3c6 3a7:m:3c7 3a8:m:3c8 3a9:m:3c9 3aa:m:3ca 3ab:m:3cb 3ac:v 3c2:d 3c3:v",
     "3cf:m:3d7 3d0:m:3b2 3d1:m:3b8 3d2:m:3c5 3d3:m:3cd 3d4:m:3cb 3d5:m:3c6 3d6:m:3c0 3d7:v 3d8:m:3d9",
     "3d9:v 3da:m:3db 3db:v 3dc:m:3dd 3dd:v 3de:m:3df 3df:v 3e0:m:3e1 3e1:v 3e2:m:3e3 3e3:v 3e4:m:3e5",
     "3e5:v 3e6:m:3e7 3e7:v 3e8:m:3e9 3e9:v 3ea:m:3eb 3eb:v 3ec:m:3ed 3ed:v 3ee:m:3ef 3ef:v 3f0:m:3ba",
     "3f1:m:3c1 3f2:m:3c3 3f3:v 3f4:m:3b8 3f5:m:3b5 3f6:v 3f7:m:3f8 3f8:v 3f9:m:3c3 3fa:m:3fb 3fb:v",
     "3fd:m:37b 3fe:m:37c 3ff:m:37d 400:m:450 401:m:451 402:m:452 403:m:453 404:m:454 405:m:455",
     "406:m:456 407:m:457 408:m:458 409:m:459 40a:m:45a 40b:m:45b 40c:m:45c 40d:m:45d 40e:m:45e",
     "40f:m:45f 410:m:430 411:m:431 412:m:432 413:m:433 414:m:434 415:m:435 416:m:436 417:m:437",
     "418:m:438 419:m:439 41a:m:43a 41b:m:43b 41c:m:43c 41d:m:43d 41e:m:43e 41f:m:43f 420:m:440",
     "421:m:441 422:m:442 423:m:443 424:m:444 425:m:445 426:m:446 427:m:447 428:m:448 429:m:449",
     "42a:m:44a 42b:m:44b 42c:m:44c 42d:m:44d 42e:m:44e 42f:m:44f 430:v 460:m:461 461:v 462:m:463",
     "463:v 464:m:465 465:v 466:m:467 467:v 468:m:469 469:v 46a:m:46b 46b:v 46c:m:46d 46d:v 46e:m:46f",
     "46f:v 470:m:471 471:v 472:m:473 473:v 474:m:475 475:v 476:m:477 477:v 478:m:479 479:v 47a:m:47b",
     "47b:v 47c:m:47d 47d:v 47e:m:47f 47f:v 480:m:481 481:v 48a:m:48b 48b:v 48c:m:48d 48d:v 48e:m:48f",
     "48f:v 490:m:491 491:v 492:m:493 493:v 494:m:495 495:v 496:m:497 497:v 498:m:499 499:v 49a:m:49b",
     "49b:v 49c:m:49d 49d:v 49e:m:49f 49f:v 4a0:m:4a1 4a1:v 4a2:m:4a3 4a3:v 4a4:m:4a5 4a5:v 4a6:m:4a7",
     "4a7:v 4a8:m:4a9 4a9:v 4aa:m:4ab 4ab:v 4ac:m:4ad 4ad:v 4ae:m:4af 4af:v 4b0:m:4b1 4b1:v 4b2:m:4b3",
     "4b3:v 4b4:m:4b5 4b5:v 4b6:m:4b7 4b7:v 4b8:m:4b9 4b9:v 4ba:m:4bb 4bb:v 4bc:m:4bd 4bd:v 4be:m:4bf",
     "4bf:v 4c0:m:4cf 4c1:m:4c2 4c2:v 4c3:m:4c4 4c4:v 4c5:m:4c6 4c6:v 4c7:m:4c8 4c8:v 4c9:m:4ca 4ca:v",
     "4cb:m:4cc 4cc:v 4cd:m:4ce 4ce:v 4d0:m:4d1 4d1:v 4d2:m:4d3 4d3:v 4d4:m:4d5 4d5:v 4d6:m:4d7 4d7:v",
     "4d8:m:4d9 4d9:v 4da:m:4db 4db:v 4dc:m:4dd 4dd:v 4de:m:4df 4df:v 4e0:m:4e1 4e1:v 4e2:m:4e3 4e3:v",
     "4e4:m:4e5 4e5:v 4e6:m:4e7 4e7:v 4e8:m:4e9 4e9:v 4ea:m:4eb 4eb:v 4ec:m:4ed 4ed:v 4ee:m:4ef 4ef:v",
     "4f0:m:4f1 4f1:v 4f2:m:4f3 4f3:v 4f4:m:4f5 4f5:v 4f6:m:4f7 4f7:v 4f8:m:4f9 4f9:v 4fa:m:4fb 4fb:v",
     "4fc:m:4fd 4fd:v 4fe:m:4ff 4ff:v 500:m:501 501:v 502:m:503 503:v 504:m:505 505:v 506:m:507 507:v",
     "508:m:509 509:v 50a:m:50b 50b:v 50c:m:50d 50d:v 50e:m:50f 50f:v 510:m:511 511:v 512:m:513 513:v",
     "514:m:515 515:v 516:m:517 517:v 518:m:519 519:v 51a:m:51b 51b:v 51c:m:51d 51d:v 51e:m:51f 51f:v",
     "520:m:521 521:v 522:m:523 523:v 524:m:525 525:v 526:m:527 527:v 528:m:529 529:v 52a:m:52b 52b:v",
     "52c:m:52d 52d:v 52e:m:52f 52f:v 530:x 531:m:561 532:m:562 533:m:563 534:m:564 535:m:565",
     "536:m:566 537:m:567 538:m:568 539:m:569 53a:m:56a 53b:m:56b 53c:m:56c 53d:m:56d 53e:m:56e",
     "53f:m:56f 540:m:570 541:m:571 542:m:572 543:m:573 544:m:574 545:m:575 546:m:576 547:m:577",
     "548:m:578 549:m:579 54a:m:57a 54b:m:57b 54c:m:57c 54d:m:57d 54e:m:57e 54f:m:57f 550:m:580",
     "551:m:581 552:m:582 553:m:583 554:m:584 555:m:585 556:m:586 557:x 559:v 587:m:565.582 588:v",
     "58b:x 58d:v 590:x 591:v 5c8:x 5d0:v 5eb:x 5ef:v 5f5:x 606:v 61c:x 61d:v 675:m:627.674",
     "676:m:648.674 677:m:6c7.674 678:m:64a.674 679:v 6dd:x 6de:v 70e:x 710:v 74b:x 74d:v 7b2:x 7c0:v",
     "7fb:x 7fd:v 82e:x 830:v 83f:x 840:v 85c:x 85e:v 85f:x 860:v 86b:x 870:v 890:x 897:v 8e2:x 8e3:v",
     "958:m:915.93c 959:m:916.93c 95a:m:917.93c 95b:m:91c.93c 95c:m:921.93c 95d:m:922.93c",
     "95e:m:92b.93c 95f:m:92f.93c 960:v 984:x 985:v 98d:x 98f:v 991:x 993:v 9a9:x 9aa:v 9b1:x 9b2:v",
     "9b3:x 9b6:v 9ba:x 9bc:v 9c5:x 9c7:v 9c9:x 9cb:v 9cf:x 9d7:v 9d8:x 9dc:m:9a1.9bc 9dd:m:9a2.9bc",
     "9de:x 9df:m:9af.9bc 9e0:v 9e4:x 9e6:v 9ff:x a01:v a04:x a05:v a0b:x a0f:v a11:x a13:v a29:x",
     "a2a:v a31:x a32:v a33:m:a32.a3c a34:x a35:v a36:m:a38.a3c a37:x a38:v a3a:x a3c:v a3d:x a3e:v",
     "a43:x a47:v a49:x a4b:v a4e:x a51:v a52:x a59:m:a16.a3c a5a:m:a17.a3c a5b:m:a1c.a3c a5c:v a5d:x",
     "a5e:m:a2b.a3c a5f:x a66:v a77:x a81:v a84:x a85:v a8e:x a8f:v a92:x a93:v aa9:x aaa:v ab1:x",
     "ab2:v ab4:x ab5:v aba:x abc:v ac6:x ac7:v aca:x acb:v ace:x ad0:v ad1:x ae0:v ae4:x ae6:v af2:x",
     "af9:v b00:x b01:v b04:x b05:v b0d:x b0f:v b11:x b13:v b29:x b2a:v b31:x b32:v b34:x b35:v b3a:x",
     "b3c:v b45:x b47:v b49:x b4b:v b4e:x b55:v b58:x b5c:m:b21.b3c b5d:m:b22.b3c b5e:x b5f:v b64:x",
     "b66:v b78:x b82:v b84:x b85:v b8b:x b8e:v b91:x b92:v b96:x b99:v b9b:x b9c:v b9d:x b9e:v ba0:x",
     "ba3:v ba5:x ba8:v bab:x bae:v bba:x bbe:v bc3:x bc6:v bc9:x bca:v bce:x bd0:v bd1:x bd7:v bd8:x",
     "be6:v bfb:x c00:v c0d:x c0e:v c11:x c12:v c29:x c2a:v c3a:x c3c:v c45:x c46:v c49:x c4a:v c4e:x",
     "c55:v c57:x c58:v c5b:x c5c:v c5e:x c60:v c64:x c66:v c70:x c77:v c8d:x c8e:v c91:x c92:v ca9:x",
     "caa:v cb4:x cb5:v cba:x cbc:v cc5:x cc6:v cc9:x cca:v cce:x cd5:v cd7:x cdc:v cdf:x ce0:v ce4:x",
     "ce6:v cf0:x cf1:v cf4:x d00:v d0d:x d0e:v d11:x d12:v d45:x d46:v d49:x d4a:v d50:x d54:v d64:x",
     "d66:v d80:x d81:v d84:x d85:v d97:x d9a:v db2:x db3:v dbc:x dbd:v dbe:x dc0:v dc7:x dca:v dcb:x",
     "dcf:v dd5:x dd6:v dd7:x dd8:v de0:x de6:v df0:x df2:v df5:x e01:v e33:m:e4d.e32 e34:v e3b:x",
     "e3f:v e5c:x e81:v e83:x e84:v e85:x e86:v e8b:x e8c:v ea4:x ea5:v ea6:x ea7:v eb3:m:ecd.eb2",
     "eb4:v ebe:x ec0:v ec5:x ec6:v ec7:x ec8:v ecf:x ed0:v eda:x edc:m:eab.e99 edd:m:eab.ea1 ede:v",
     "ee0:x f00:v f0c:m:f0b f0d:v f43:m:f42.fb7 f44:v f48:x f49:v f4d:m:f4c.fb7 f4e:v f52:m:f51.fb7",
     "f53:v f57:m:f56.fb7 f58:v f5c:m:f5b.fb7 f5d:v f69:m:f40.fb5 f6a:v f6d:x f71:v f73:m:f71.f72",
     "f74:v f75:m:f71.f74 f76:m:fb2.f80 f77:m:fb2.f71.f80 f78:m:fb3.f80 f79:m:fb3.f71.f80 f7a:v",
     "f81:m:f71.f80 f82:v f93:m:f92.fb7 f94:v f98:x f99:v f9d:m:f9c.fb7 f9e:v fa2:m:fa1.fb7 fa3:v",
     "fa7:m:fa6.fb7 fa8:v fac:m:fab.fb7 fad:v fb9:m:f90.fb5 fba:v fbd:x fbe:v fcd:x fce:v fdb:x 1000:v",
     "10a0:m:2d00 10a1:m:2d01 10a2:m:2d02 10a3:m:2d03 10a4:m:2d04 10a5:m:2d05 10a6:m:2d06 10a7:m:2d07",
     "10a8:m:2d08 10a9:m:2d09 10aa:m:2d0a 10ab:m:2d0b 10ac:m:2d0c 10ad:m:2d0d 10ae:m:2d0e 10af:m:2d0f",
     "10b0:m:2d10 10b1:m:2d11 10b2:m:2d12 10b3:m:2d13 10b4:m:2d14 10b5:m:2d15 10b6:m:2d16 10b7:m:2d17",
     "10b8:m:2d18 10b9:m:2d19 10ba:m:2d1a 10bb:m:2d1b 10bc:m:2d1c 10bd:m:2d1d 10be:m:2d1e 10bf:m:2d1f",
     "10c0:m:2d20 10c1:m:2d21 10c2:m:2d22 10c3:m:2d23 10c4:m:2d24 10c5:m:2d25 10c6:x 10c7:m:2d27",
     "10c8:x 10cd:m:2d2d 10ce:x 10d0:v 10fc:m:10dc 10fd:v 115f:i 1161:v 1249:x 124a:v 124e:x 1250:v",
     "1257:x 1258:v 1259:x 125a:v 125e:x 1260:v 1289:x 128a:v 128e:x 1290:v 12b1:x 12b2:v 12b6:x",
     "12b8:v 12bf:x 12c0:v 12c1:x 12c2:v 12c6:x 12c8:v 12d7:x 12d8:v 1311:x 1312:v 1316:x 1318:v",
     "135b:x 135d:v 137d:x 1380:v 139a:x 13a0:v 13f6:x 13f8:m:13f0 13f9:m:13f1 13fa:m:13f2 13fb:m:13f3",
     "13fc:m:13f4 13fd:m:13f5 13fe:x 1400:v 1680:x 1681:v 169d:x 16a0:v 16f9:x 1700:v 1716:x 171f:v",
     "1737:x 1740:v 1754:x 1760:v 176d:x 176e:v 1771:x 1772:v 1774:x 1780:v 17b4:i 17b6:v 17de:x",
     "17e0:v 17ea:x 17f0:v 17fa:x 1800:v 180b:i 1810:v 181a:x 1820:v 1879:x 1880:v 18ab:x 18b0:v",
     "18f6:x 1900:v 191f:x 1920:v 192c:x 1930:v 193c:x 1940:v 1941:x 1944:v 196e:x 1970:v 1975:x",
     "1980:v 19ac:x 19b0:v 19ca:x 19d0:v 19db:x 19de:v 1a1c:x 1a1e:v 1a5f:x 1a60:v 1a7d:x 1a7f:v",
     "1a8a:x 1a90:v 1a9a:x 1aa0:v 1aae:x 1ab0:v 1ade:x 1ae0:v 1aec:x 1b00:v 1b4d:x 1b4e:v 1bf4:x",
     "1bfc:v 1c38:x 1c3b:v 1c4a:x 1c4d:v 1c80:m:432 1c81:m:434 1c82:m:43e 1c83:m:441 1c84:m:442",
     "1c86:m:44a 1c87:m:463 1c88:m:a64b 1c89:m:1c8a 1c8a:v 1c8b:x 1c90:m:10d0 1c91:m:10d1 1c92:m:10d2",
     "1c93:m:10d3 1c94:m:10d4 1c95:m:10d5 1c96:m:10d6 1c97:m:10d7 1c98:m:10d8 1c99:m:10d9 1c9a:m:10da",
     "1c9b:m:10db 1c9c:m:10dc 1c9d:m:10dd 1c9e:m:10de 1c9f:m:10df 1ca0:m:10e0 1ca1:m:10e1 1ca2:m:10e2",
     "1ca3:m:10e3 1ca4:m:10e4 1ca5:m:10e5 1ca6:m:10e6 1ca7:m:10e7 1ca8:m:10e8 1ca9:m:10e9 1caa:m:10ea",
     "1cab:m:10eb 1cac:m:10ec 1cad:m:10ed 1cae:m:10ee 1caf:m:10ef 1cb0:m:10f0 1cb1:m:10f1 1cb2:m:10f2",
     "1cb3:m:10f3 1cb4:m:10f4 1cb5:m:10f5 1cb6:m:10f6 1cb7:m:10f7 1cb8:m:10f8 1cb9:m:10f9 1cba:m:10fa",
     "1cbb:x 1cbd:m:10fd 1cbe:m:10fe 1cbf:m:10ff 1cc0:v 1cc8:x 1cd0:v 1cfb:x 1d00:v 1d2c:m:61",
     "1d2d:m:e6 1d2e:m:62 1d2f:v 1d30:m:64 1d31:m:65 1d32:m:1dd 1d33:m:67 1d34:m:68 1d35:m:69",
     "1d36:m:6a 1d37:m:6b 1d38:m:6c 1d39:m:6d 1d3a:m:6e 1d3b:v 1d3c:m:6f 1d3d:m:223 1d3e:m:70",
     "1d3f:m:72 1d40:m:74 1d41:m:75 1d42:m:77 1d43:m:61 1d44:m:250 1d45:m:251 1d46:m:1d02 1d47:m:62",
     "1d48:m:64 1d49:m:65 1d4a:m:259 1d4b:m:25b 1d4c:m:25c 1d4d:m:67 1d4e:v 1d4f:m:6b 1d50:m:6d",
     "1d51:m:14b 1d52:m:6f 1d53:m:254 1d54:m:1d16 1d55:m:1d17 1d56:m:70 1d57:m:74 1d58:m:75",
     "1d59:m:1d1d 1d5a:m:26f 1d5b:m:76 1d5c:m:1d25 1d5d:m:3b2 1d5e:m:3b3 1d5f:m:3b4 1d60:m:3c6",
     "1d61:m:3c7 1d62:m:69 1d63:m:72 1d64:m:75 1d65:m:76 1d66:m:3b2 1d67:m:3b3 1d68:m:3c1 1d69:m:3c6",
     "1d6a:m:3c7 1d6b:v 1d78:m:43d 1d79:v 1d9b:m:252 1d9c:m:63 1d9d:m:255 1d9e:m:f0 1d9f:m:25c",
     "1da0:m:66 1da1:m:25f 1da2:m:261 1da3:m:265 1da4:m:268 1da5:m:269 1da6:m:26a 1da7:m:1d7b",
     "1da8:m:29d 1da9:m:26d 1daa:m:1d85 1dab:m:29f 1dac:m:271 1dad:m:270 1dae:m:272 1daf:m:273",
     "1db0:m:274 1db1:m:275 1db2:m:278 1db3:m:282 1db4:m:283 1db5:m:1ab 1db6:m:289 1db7:m:28a",
     "1db8:m:1d1c 1db9:m:28b 1dba:m:28c 1dbb:m:7a 1dbc:m:290 1dbd:m:291 1dbe:m:292 1dbf:m:3b8 1dc0:v",
     "1e00:m:1e01 1e01:v 1e02:m:1e03 1e03:v 1e04:m:1e05 1e05:v 1e06:m:1e07 1e07:v 1e08:m:1e09 1e09:v",
     "1e0a:m:1e0b 1e0b:v 1e0c:m:1e0d 1e0d:v 1e0e:m:1e0f 1e0f:v 1e10:m:1e11 1e11:v 1e12:m:1e13 1e13:v",
     "1e14:m:1e15 1e15:v 1e16:m:1e17 1e17:v 1e18:m:1e19 1e19:v 1e1a:m:1e1b 1e1b:v 1e1c:m:1e1d 1e1d:v",
     "1e1e:m:1e1f 1e1f:v 1e20:m:1e21 1e21:v 1e22:m:1e23 1e23:v 1e24:m:1e25 1e25:v 1e26:m:1e27 1e27:v",
     "1e28:m:1e29 1e29:v 1e2a:m:1e2b 1e2b:v 1e2c:m:1e2d 1e2d:v 1e2e:m:1e2f 1e2f:v 1e30:m:1e31 1e31:v",
     "1e32:m:1e33 1e33:v 1e34:m:1e35 1e35:v 1e36:m:1e37 1e37:v 1e38:m:1e39 1e39:v 1e3a:m:1e3b 1e3b:v",
     "1e3c:m:1e3d 1e3d:v 1e3e:m:1e3f 1e3f:v 1e40:m:1e41 1e41:v 1e42:m:1e43 1e43:v 1e44:m:1e45 1e45:v",
     "1e46:m:1e47 1e47:v 1e48:m:1e49 1e49:v 1e4a:m:1e4b 1e4b:v 1e4c:m:1e4d 1e4d:v 1e4e:m:1e4f 1e4f:v",
     "1e50:m:1e51 1e51:v 1e52:m:1e53 1e53:v 1e54:m:1e55 1e55:v 1e56:m:1e57 1e57:v 1e58:m:1e59 1e59:v",
     "1e5a:m:1e5b 1e5b:v 1e5c:m:1e5d 1e5d:v 1e5e:m:1e5f 1e5f:v 1e60:m:1e61 1e61:v 1e62:m:1e63 1e63:v",
     "1e64:m:1e65 1e65:v 1e66:m:1e67 1e67:v 1e68:m:1e69 1e69:v 1e6a:m:1e6b 1e6b:v 1e6c:m:1e6d 1e6d:v",
     "1e6e:m:1e6f 1e6f:v 1e70:m:1e71 1e71:v 1e72:m:1e73 1e73:v 1e74:m:1e75 1e75:v 1e76:m:1e77 1e77:v",
     "1e78:m:1e79 1e79:v 1e7a:m:1e7b 1e7b:v 1e7c:m:1e7d 1e7d:v 1e7e:m:1e7f 1e7f:v 1e80:m:1e81 1e81:v",
     "1e82:m:1e83 1e83:v 1e84:m:1e85 1e85:v 1e86:m:1e87 1e87:v 1e88:m:1e89 1e89:v 1e8a:m:1e8b 1e8b:v",
     "1e8c:m:1e8d 1e8d:v 1e8e:m:1e8f 1e8f:v 1e90:m:1e91 1e91:v 1e92:m:1e93 1e93:v 1e94:m:1e95 1e95:v",
     "1e9a:m:61.2be 1e9b:m:1e61 1e9c:v 1e9e:m:df 1e9f:v 1ea0:m:1ea1 1ea1:v 1ea2:m:1ea3 1ea3:v",
     "1ea4:m:1ea5 1ea5:v 1ea6:m:1ea7 1ea7:v 1ea8:m:1ea9 1ea9:v 1eaa:m:1eab 1eab:v 1eac:m:1ead 1ead:v",
     "1eae:m:1eaf 1eaf:v 1eb0:m:1eb1 1eb1:v 1eb2:m:1eb3 1eb3:v 1eb4:m:1eb5 1eb5:v 1eb6:m:1eb7 1eb7:v",
     "1eb8:m:1eb9 1eb9:v 1eba:m:1ebb 1ebb:v 1ebc:m:1ebd 1ebd:v 1ebe:m:1ebf 1ebf:v 1ec0:m:1ec1 1ec1:v",
     "1ec2:m:1ec3 1ec3:v 1ec4:m:1ec5 1ec5:v 1ec6:m:1ec7 1ec7:v 1ec8:m:1ec9 1ec9:v 1eca:m:1ecb 1ecb:v",
     "1ecc:m:1ecd 1ecd:v 1ece:m:1ecf 1ecf:v 1ed0:m:1ed1 1ed1:v 1ed2:m:1ed3 1ed3:v 1ed4:m:1ed5 1ed5:v",
     "1ed6:m:1ed7 1ed7:v 1ed8:m:1ed9 1ed9:v 1eda:m:1edb 1edb:v 1edc:m:1edd 1edd:v 1ede:m:1edf 1edf:v",
     "1ee0:m:1ee1 1ee1:v 1ee2:m:1ee3 1ee3:v 1ee4:m:1ee5 1ee5:v 1ee6:m:1ee7 1ee7:v 1ee8:m:1ee9 1ee9:v",
     "1eea:m:1eeb 1eeb:v 1eec:m:1eed 1eed:v 1eee:m:1eef 1eef:v 1ef0:m:1ef1 1ef1:v 1ef2:m:1ef3 1ef3:v",
     "1ef4:m:1ef5 1ef5:v 1ef6:m:1ef7 1ef7:v 1ef8:m:1ef9 1ef9:v 1efa:m:1efb 1efb:v 1efc:m:1efd 1efd:v",
     "1efe:m:1eff 1eff:v 1f08:m:1f00 1f09:m:1f01 1f0a:m:1f02 1f0b:m:1f03 1f0c:m:1f04 1f0d:m:1f05",
     "1f0e:m:1f06 1f0f:m:1f07 1f10:v 1f16:x 1f18:m:1f10 1f19:m:1f11 1f1a:m:1f12 1f1b:m:1f13",
     "1f1c:m:1f14 1f1d:m:1f15 1f1e:x 1f20:v 1f28:m:1f20 1f29:m:1f21 1f2a:m:1f22 1f2b:m:1f23",
     "1f2c:m:1f24 1f2d:m:1f25 1f2e:m:1f26 1f2f:m:1f27 1f30:v 1f38:m:1f30 1f39:m:1f31 1f3a:m:1f32",
     "1f3b:m:1f33 1f3c:m:1f34 1f3d:m:1f35 1f3e:m:1f36 1f3f:m:1f37 1f40:v 1f46:x 1f48:m:1f40",
     "1f49:m:1f41 1f4a:m:1f42 1f4b:m:1f43 1f4c:m:1f44 1f4d:m:1f45 1f4e:x 1f50:v 1f58:x 1f59:m:1f51",
     "1f5a:x 1f5b:m:1f53 1f5c:x 1f5d:m:1f55 1f5e:x 1f5f:m:1f57 1f60:v 1f68:m:1f60 1f69:m:1f61",
     "1f6a:m:1f62 1f6b:m:1f63 1f6c:m:1f64 1f6d:m:1f65 1f6e:m:1f66 1f6f:m:1f67 1f70:v 1f71:m:3ac 1f72:v",
     "1f73:m:3ad 1f74:v 1f75:m:3ae 1f76:v 1f77:m:3af 1f78:v 1f79:m:3cc 1f7a:v 1f7b:m:3cd 1f7c:v",
     "1f7d:m:3ce 1f7e:x 1f80:m:1f00.3b9 1f81:m:1f01.3b9 1f82:m:1f02.3b9 1f83:m:1f03.3b9",
     "1f84:m:1f04.3b9 1f85:m:1f05.3b9 1f86:m:1f06.3b9 1f87:m:1f07.3b9 1f88:m:1f00.3b9 1f89:m:1f01.3b9",
     "1f8a:m:1f02.3b9 1f8b:m:1f03.3b9 1f8c:m:1f04.3b9 1f8d:m:1f05.3b9 1f8e:m:1f06.3b9 1f8f:m:1f07.3b9",
     "1f90:m:1f20.3b9 1f91:m:1f21.3b9 1f92:m:1f22.3b9 1f93:m:1f23.3b9 1f94:m:1f24.3b9 1f95:m:1f25.3b9",
     "1f96:m:1f26.3b9 1f97:m:1f27.3b9 1f98:m:1f20.3b9 1f99:m:1f21.3b9 1f9a:m:1f22.3b9 1f9b:m:1f23.3b9",
     "1f9c:m:1f24.3b9 1f9d:m:1f25.3b9 1f9e:m:1f26.3b9 1f9f:m:1f27.3b9 1fa0:m:1f60.3b9 1fa1:m:1f61.3b9",
     "1fa2:m:1f62.3b9 1fa3:m:1f63.3b9 1fa4:m:1f64.3b9 1fa5:m:1f65.3b9 1fa6:m:1f66.3b9 1fa7:m:1f67.3b9",
     "1fa8:m:1f60.3b9 1fa9:m:1f61.3b9 1faa:m:1f62.3b9 1fab:m:1f63.3b9 1fac:m:1f64.3b9 1fad:m:1f65.3b9",
     "1fae:m:1f66.3b9 1faf:m:1f67.3b9 1fb0:v 1fb2:m:1f70.3b9 1fb3:m:3b1.3b9 1fb4:m:3ac.3b9 1fb5:x",
     "1fb6:v 1fb7:m:1fb6.3b9 1fb8:m:1fb0 1fb9:m:1fb1 1fba:m:1f70 1fbb:m:3ac 1fbc:m:3b1.3b9",
     "1fbd:m:20.313 1fbe:m:3b9 1fbf:m:20.313 1fc0:m:20.342 1fc1:m:20.308.342 1fc2:m:1f74.3b9",
     "1fc3:m:3b7.3b9 1fc4:m:3ae.3b9 1fc5:x 1fc6:v 1fc7:m:1fc6.3b9 1fc8:m:1f72 1fc9:m:3ad 1fca:m:1f74",
     "1fcb:m:3ae 1fcc:m:3b7.3b9 1fcd:m:20.313.300 1fce:m:20.313.301 1fcf:m:20.313.342 1fd0:v",
     "1fd3:m:390 1fd4:x 1fd6:v 1fd8:m:1fd0 1fd9:m:1fd1 1fda:m:1f76 1fdb:m:3af 1fdc:x 1fdd:m:20.314.300",
     "1fde:m:20.314.301 1fdf:m:20.314.342 1fe0:v 1fe3:m:3b0 1fe4:v 1fe8:m:1fe0 1fe9:m:1fe1 1fea:m:1f7a",
     "1feb:m:3cd 1fec:m:1fe5 1fed:m:20.308.300 1fee:m:20.308.301 1fef:m:60 1ff0:x 1ff2:m:1f7c.3b9",
     "1ff3:m:3c9.3b9 1ff4:m:3ce.3b9 1ff5:x 1ff6:v 1ff7:m:1ff6.3b9 1ff8:m:1f78 1ff9:m:3cc 1ffa:m:1f7c",
     "1ffb:m:3ce 1ffc:m:3c9.3b9 1ffd:m:20.301 1ffe:m:20.314 1fff:x 2000:m:20 200b:i 200c:d 200e:x",
     "2010:v 2011:m:2010 2012:v 2017:m:20.333 2018:v 2024:x 2027:v 2028:x 202f:m:20 2030:v",
     "2033:m:2032.2032 2034:m:2032.2032.2032 2035:v 2036:m:2035.2035 2037:m:2035.2035.2035 2038:v",
     "203c:m:21.21 203d:v 203e:m:20.305 203f:v 2047:m:3f.3f 2048:m:3f.21 2049:m:21.3f 204a:v",
     "2057:m:2032.2032.2032.2032 2058:v 205f:m:20 2060:i 2065:x 206a:i 2070:m:30 2071:m:69 2072:x",
     "2074:m:34 2075:m:35 2076:m:36 2077:m:37 2078:m:38 2079:m:39 207a:m:2b 207b:m:2212 207c:m:3d",
     "207d:m:28 207e:m:29 207f:m:6e 2080:m:30 2081:m:31 2082:m:32 2083:m:33 2084:m:34 2085:m:35",
     "2086:m:36 2087:m:37 2088:m:38 2089:m:39 208a:m:2b 208b:m:2212 208c:m:3d 208d:m:28 208e:m:29",
     "208f:x 2090:m:61 2091:m:65 2092:m:6f 2093:m:78 2094:m:259 2095:m:68 2096:m:6b 2097:m:6c",
     "2098:m:6d 2099:m:6e 209a:m:70 209b:m:73 209c:m:74 209d:x 20a0:v 20a8:m:72.73 20a9:v 20c2:x",
     "20d0:v 20f1:x 2100:m:61.2f.63 2101:m:61.2f.73 2102:m:63 2103:m:b0.63 2104:v 2105:m:63.2f.6f",
     "2106:m:63.2f.75 2107:m:25b 2108:v 2109:m:b0.66 210a:m:67 210b:m:68 210f:m:127 2110:m:69",
     "2112:m:6c 2114:v 2115:m:6e 2116:m:6e.6f 2117:v 2119:m:70 211a:m:71 211b:m:72 211e:v 2120:m:73.6d",
     "2121:m:74.65.6c 2122:m:74.6d 2123:v 2124:m:7a 2125:v 2126:m:3c9 2127:v 2128:m:7a 2129:v",
     "212a:m:6b 212b:m:e5 212c:m:62 212d:m:63 212e:v 212f:m:65 2131:m:66 2132:m:214e 2133:m:6d",
     "2134:m:6f 2135:m:5d0 2136:m:5d1 2137:m:5d2 2138:m:5d3 2139:m:69 213a:v 213b:m:66.61.78",
     "213c:m:3c0 213d:m:3b3 213f:m:3c0 2140:m:2211 2141:v 2145:m:64 2147:m:65 2148:m:69 2149:m:6a",
     "214a:v 2150:m:31.2044.37 2151:m:31.2044.39 2152:m:31.2044.31.30 2153:m:31.2044.33",
     "2154:m:32.2044.33 2155:m:31.2044.35 2156:m:32.2044.35 2157:m:33.2044.35 2158:m:34.2044.35",
     "2159:m:31.2044.36 215a:m:35.2044.36 215b:m:31.2044.38 215c:m:33.2044.38 215d:m:35.2044.38",
     "215e:m:37.2044.38 215f:m:31.2044 2160:m:69 2161:m:69.69 2162:m:69.69.69 2163:m:69.76 2164:m:76",
     "2165:m:76.69 2166:m:76.69.69 2167:m:76.69.69.69 2168:m:69.78 2169:m:78 216a:m:78.69",
     "216b:m:78.69.69 216c:m:6c 216d:m:63 216e:m:64 216f:m:6d 2170:m:69 2171:m:69.69 2172:m:69.69.69",
     "2173:m:69.76 2174:m:76 2175:m:76.69 2176:m:76.69.69 2177:m:76.69.69.69 2178:m:69.78 2179:m:78",
     "217a:m:78.69 217b:m:78.69.69 217c:m:6c 217d:m:63 217e:m:64 217f:m:6d 2180:v 2183:m:2184 2184:v",
     "2189:m:30.2044.33 218a:v 218c:x 2190:v 222c:m:222b.222b 222d:m:222b.222b.222b 222e:v",
     "222f:m:222e.222e 2230:m:222e.222e.222e 2231:v 2329:m:3008 232a:m:3009 232b:v 242a:x 2440:v",
     "244b:x 2460:m:31 2461:m:32 2462:m:33 2463:m:34 2464:m:35 2465:m:36 2466:m:37 2467:m:38 2468:m:39",
     "2469:m:31.30 246a:m:31.31 246b:m:31.32 246c:m:31.33 246d:m:31.34 246e:m:31.35 246f:m:31.36",
     "2470:m:31.37 2471:m:31.38 2472:m:31.39 2473:m:32.30 2474:m:28.31.29 2475:m:28.32.29",
     "2476:m:28.33.29 2477:m:28.34.29 2478:m:28.35.29 2479:m:28.36.29 247a:m:28.37.29 247b:m:28.38.29",
     "247c:m:28.39.29 247d:m:28.31.30.29 247e:m:28.31.31.29 247f:m:28.31.32.29 2480:m:28.31.33.29",
     "2481:m:28.31.34.29 2482:m:28.31.35.29 2483:m:28.31.36.29 2484:m:28.31.37.29 2485:m:28.31.38.29",
     "2486:m:28.31.39.29 2487:m:28.32.30.29 2488:x 249c:m:28.61.29 249d:m:28.62.29 249e:m:28.63.29",
     "249f:m:28.64.29 24a0:m:28.65.29 24a1:m:28.66.29 24a2:m:28.67.29 24a3:m:28.68.29 24a4:m:28.69.29",
     "24a5:m:28.6a.29 24a6:m:28.6b.29 24a7:m:28.6c.29 24a8:m:28.6d.29 24a9:m:28.6e.29 24aa:m:28.6f.29",
     "24ab:m:28.70.29 24ac:m:28.71.29 24ad:m:28.72.29 24ae:m:28.73.29 24af:m:28.74.29 24b0:m:28.75.29",
     "24b1:m:28.76.29 24b2:m:28.77.29 24b3:m:28.78.29 24b4:m:28.79.29 24b5:m:28.7a.29 24b6:m:61",
     "24b7:m:62 24b8:m:63 24b9:m:64 24ba:m:65 24bb:m:66 24bc:m:67 24bd:m:68 24be:m:69 24bf:m:6a",
     "24c0:m:6b 24c1:m:6c 24c2:m:6d 24c3:m:6e 24c4:m:6f 24c5:m:70 24c6:m:71 24c7:m:72 24c8:m:73",
     "24c9:m:74 24ca:m:75 24cb:m:76 24cc:m:77 24cd:m:78 24ce:m:79 24cf:m:7a 24d0:m:61 24d1:m:62",
     "24d2:m:63 24d3:m:64 24d4:m:65 24d5:m:66 24d6:m:67 24d7:m:68 24d8:m:69 24d9:m:6a 24da:m:6b",
     "24db:m:6c 24dc:m:6d 24dd:m:6e 24de:m:6f 24df:m:70 24e0:m:71 24e1:m:72 24e2:m:73 24e3:m:74",
     "24e4:m:75 24e5:m:76 24e6:m:77 24e7:m:78 24e8:m:79 24e9:m:7a 24ea:m:30 24eb:v",
     "2a0c:m:222b.222b.222b.222b 2a0d:v 2a74:m:3a.3a.3d 2a75:m:3d.3d 2a76:m:3d.3d.3d 2a77:v",
     "2adc:m:2add.338 2add:v 2b74:x 2b76:v 2c00:m:2c30 2c01:m:2c31 2c02:m:2c32 2c03:m:2c33 2c04:m:2c34",
     "2c05:m:2c35 2c06:m:2c36 2c07:m:2c37 2c08:m:2c38 2c09:m:2c39 2c0a:m:2c3a 2c0b:m:2c3b 2c0c:m:2c3c",
     "2c0d:m:2c3d 2c0e:m:2c3e 2c0f:m:2c3f 2c10:m:2c40 2c11:m:2c41 2c12:m:2c42 2c13:m:2c43 2c14:m:2c44",
     "2c15:m:2c45 2c16:m:2c46 2c17:m:2c47 2c18:m:2c48 2c19:m:2c49 2c1a:m:2c4a 2c1b:m:2c4b 2c1c:m:2c4c",
     "2c1d:m:2c4d 2c1e:m:2c4e 2c1f:m:2c4f 2c20:m:2c50 2c21:m:2c51 2c22:m:2c52 2c23:m:2c53 2c24:m:2c54",
     "2c25:m:2c55 2c26:m:2c56 2c27:m:2c57 2c28:m:2c58 2c29:m:2c59 2c2a:m:2c5a 2c2b:m:2c5b 2c2c:m:2c5c",
     "2c2d:m:2c5d 2c2e:m:2c5e 2c2f:m:2c5f 2c30:v 2c60:m:2c61 2c61:v 2c62:m:26b 2c63:m:1d7d 2c64:m:27d",
     "2c65:v 2c67:m:2c68 2c68:v 2c69:m:2c6a 2c6a:v 2c6b:m:2c6c 2c6c:v 2c6d:m:251 2c6e:m:271 2c6f:m:250",
     "2c70:m:252 2c71:v 2c72:m:2c73 2c73:v 2c75:m:2c76 2c76:v 2c7c:m:6a 2c7d:m:76 2c7e:m:23f",
     "2c7f:m:240 2c80:m:2c81 2c81:v 2c82:m:2c83 2c83:v 2c84:m:2c85 2c85:v 2c86:m:2c87 2c87:v",
     "2c88:m:2c89 2c89:v 2c8a:m:2c8b 2c8b:v 2c8c:m:2c8d 2c8d:v 2c8e:m:2c8f 2c8f:v 2c90:m:2c91 2c91:v",
     "2c92:m:2c93 2c93:v 2c94:m:2c95 2c95:v 2c96:m:2c97 2c97:v 2c98:m:2c99 2c99:v 2c9a:m:2c9b 2c9b:v",
     "2c9c:m:2c9d 2c9d:v 2c9e:m:2c9f 2c9f:v 2ca0:m:2ca1 2ca1:v 2ca2:m:2ca3 2ca3:v 2ca4:m:2ca5 2ca5:v",
     "2ca6:m:2ca7 2ca7:v 2ca8:m:2ca9 2ca9:v 2caa:m:2cab 2cab:v 2cac:m:2cad 2cad:v 2cae:m:2caf 2caf:v",
     "2cb0:m:2cb1 2cb1:v 2cb2:m:2cb3 2cb3:v 2cb4:m:2cb5 2cb5:v 2cb6:m:2cb7 2cb7:v 2cb8:m:2cb9 2cb9:v",
     "2cba:m:2cbb 2cbb:v 2cbc:m:2cbd 2cbd:v 2cbe:m:2cbf 2cbf:v 2cc0:m:2cc1 2cc1:v 2cc2:m:2cc3 2cc3:v",
     "2cc4:m:2cc5 2cc5:v 2cc6:m:2cc7 2cc7:v 2cc8:m:2cc9 2cc9:v 2cca:m:2ccb 2ccb:v 2ccc:m:2ccd 2ccd:v",
     "2cce:m:2ccf 2ccf:v 2cd0:m:2cd1 2cd1:v 2cd2:m:2cd3 2cd3:v 2cd4:m:2cd5 2cd5:v 2cd6:m:2cd7 2cd7:v",
     "2cd8:m:2cd9 2cd9:v 2cda:m:2cdb 2cdb:v 2cdc:m:2cdd 2cdd:v 2cde:m:2cdf 2cdf:v 2ce0:m:2ce1 2ce1:v",
     "2ce2:m:2ce3 2ce3:v 2ceb:m:2cec 2cec:v 2ced:m:2cee 2cee:v 2cf2:m:2cf3 2cf3:v 2cf4:x 2cf9:v 2d26:x",
     "2d27:v 2d28:x 2d2d:v 2d2e:x 2d30:v 2d68:x 2d6f:m:2d61 2d70:v 2d71:x 2d7f:v 2d97:x 2da0:v 2da7:x",
     "2da8:v 2daf:x 2db0:v 2db7:x 2db8:v 2dbf:x 2dc0:v 2dc7:x 2dc8:v 2dcf:x 2dd0:v 2dd7:x 2dd8:v",
     "2ddf:x 2de0:v 2e5e:x 2e80:v 2e9a:x 2e9b:v 2e9f:m:6bcd 2ea0:v 2ef3:m:9f9f 2ef4:x 2f00:m:4e00",
     "2f01:m:4e28 2f02:m:4e36 2f03:m:4e3f 2f04:m:4e59 2f05:m:4e85 2f06:m:4e8c 2f07:m:4ea0 2f08:m:4eba",
     "2f09:m:513f 2f0a:m:5165 2f0b:m:516b 2f0c:m:5182 2f0d:m:5196 2f0e:m:51ab 2f0f:m:51e0 2f10:m:51f5",
     "2f11:m:5200 2f12:m:529b 2f13:m:52f9 2f14:m:5315 2f15:m:531a 2f16:m:5338 2f17:m:5341 2f18:m:535c",
     "2f19:m:5369 2f1a:m:5382 2f1b:m:53b6 2f1c:m:53c8 2f1d:m:53e3 2f1e:m:56d7 2f1f:m:571f 2f20:m:58eb",
     "2f21:m:5902 2f22:m:590a 2f23:m:5915 2f24:m:5927 2f25:m:5973 2f26:m:5b50 2f27:m:5b80 2f28:m:5bf8",
     "2f29:m:5c0f 2f2a:m:5c22 2f2b:m:5c38 2f2c:m:5c6e 2f2d:m:5c71 2f2e:m:5ddb 2f2f:m:5de5 2f30:m:5df1",
     "2f31:m:5dfe 2f32:m:5e72 2f33:m:5e7a 2f34:m:5e7f 2f35:m:5ef4 2f36:m:5efe 2f37:m:5f0b 2f38:m:5f13",
     "2f39:m:5f50 2f3a:m:5f61 2f3b:m:5f73 2f3c:m:5fc3 2f3d:m:6208 2f3e:m:6236 2f3f:m:624b 2f40:m:652f",
     "2f41:m:6534 2f42:m:6587 2f43:m:6597 2f44:m:65a4 2f45:m:65b9 2f46:m:65e0 2f47:m:65e5 2f48:m:66f0",
     "2f49:m:6708 2f4a:m:6728 2f4b:m:6b20 2f4c:m:6b62 2f4d:m:6b79 2f4e:m:6bb3 2f4f:m:6bcb 2f50:m:6bd4",
     "2f51:m:6bdb 2f52:m:6c0f 2f53:m:6c14 2f54:m:6c34 2f55:m:706b 2f56:m:722a 2f57:m:7236 2f58:m:723b",
     "2f59:m:723f 2f5a:m:7247 2f5b:m:7259 2f5c:m:725b 2f5d:m:72ac 2f5e:m:7384 2f5f:m:7389 2f60:m:74dc",
     "2f61:m:74e6 2f62:m:7518 2f63:m:751f 2f64:m:7528 2f65:m:7530 2f66:m:758b 2f67:m:7592 2f68:m:7676",
     "2f69:m:767d 2f6a:m:76ae 2f6b:m:76bf 2f6c:m:76ee 2f6d:m:77db 2f6e:m:77e2 2f6f:m:77f3 2f70:m:793a",
     "2f71:m:79b8 2f72:m:79be 2f73:m:7a74 2f74:m:7acb 2f75:m:7af9 2f76:m:7c73 2f77:m:7cf8 2f78:m:7f36",
     "2f79:m:7f51 2f7a:m:7f8a 2f7b:m:7fbd 2f7c:m:8001 2f7d:m:800c 2f7e:m:8012 2f7f:m:8033 2f80:m:807f",
     "2f81:m:8089 2f82:m:81e3 2f83:m:81ea 2f84:m:81f3 2f85:m:81fc 2f86:m:820c 2f87:m:821b 2f88:m:821f",
     "2f89:m:826e 2f8a:m:8272 2f8b:m:8278 2f8c:m:864d 2f8d:m:866b 2f8e:m:8840 2f8f:m:884c 2f90:m:8863",
     "2f91:m:897e 2f92:m:898b 2f93:m:89d2 2f94:m:8a00 2f95:m:8c37 2f96:m:8c46 2f97:m:8c55 2f98:m:8c78",
     "2f99:m:8c9d 2f9a:m:8d64 2f9b:m:8d70 2f9c:m:8db3 2f9d:m:8eab 2f9e:m:8eca 2f9f:m:8f9b 2fa0:m:8fb0",
     "2fa1:m:8fb5 2fa2:m:9091 2fa3:m:9149 2fa4:m:91c6 2fa5:m:91cc 2fa6:m:91d1 2fa7:m:9577 2fa8:m:9580",
     "2fa9:m:961c 2faa:m:96b6 2fab:m:96b9 2fac:m:96e8 2fad:m:9751 2fae:m:975e 2faf:m:9762 2fb0:m:9769",
     "2fb1:m:97cb 2fb2:m:97ed 2fb3:m:97f3 2fb4:m:9801 2fb5:m:98a8 2fb6:m:98db 2fb7:m:98df 2fb8:m:9996",
     "2fb9:m:9999 2fba:m:99ac 2fbb:m:9aa8 2fbc:m:9ad8 2fbd:m:9adf 2fbe:m:9b25 2fbf:m:9b2f 2fc0:m:9b32",
     "2fc1:m:9b3c 2fc2:m:9b5a 2fc3:m:9ce5 2fc4:m:9e75 2fc5:m:9e7f 2fc6:m:9ea5 2fc7:m:9ebb 2fc8:m:9ec3",
     "2fc9:m:9ecd 2fca:m:9ed1 2fcb:m:9ef9 2fcc:m:9efd 2fcd:m:9f0e 2fce:m:9f13 2fcf:m:9f20 2fd0:m:9f3b",
     "2fd1:m:9f4a 2fd2:m:9f52 2fd3:m:9f8d 2fd4:m:9f9c 2fd5:m:9fa0 2fd6:x 3000:m:20 3001:v 3002:m:2e",
     "3003:v 3036:m:3012 3037:v 3038:m:5341 3039:m:5344 303a:m:5345 303b:v 3040:x 3041:v 3097:x 3099:v",
     "309b:m:20.3099 309c:m:20.309a 309d:v 309f:m:3088.308a 30a0:v 30ff:m:30b3.30c8 3100:x 3105:v",
     "3130:x 3131:m:1100 3132:m:1101 3133:m:11aa 3134:m:1102 3135:m:11ac 3136:m:11ad 3137:m:1103",
     "3138:m:1104 3139:m:1105 313a:m:11b0 313b:m:11b1 313c:m:11b2 313d:m:11b3 313e:m:11b4 313f:m:11b5",
     "3140:m:111a 3141:m:1106 3142:m:1107 3143:m:1108 3144:m:1121 3145:m:1109 3146:m:110a 3147:m:110b",
     "3148:m:110c 3149:m:110d 314a:m:110e 314b:m:110f 314c:m:1110 314d:m:1111 314e:m:1112 314f:m:1161",
     "3150:m:1162 3151:m:1163 3152:m:1164 3153:m:1165 3154:m:1166 3155:m:1167 3156:m:1168 3157:m:1169",
     "3158:m:116a 3159:m:116b 315a:m:116c 315b:m:116d 315c:m:116e 315d:m:116f 315e:m:1170 315f:m:1171",
     "3160:m:1172 3161:m:1173 3162:m:1174 3163:m:1175 3164:i 3165:m:1114 3166:m:1115 3167:m:11c7",
     "3168:m:11c8 3169:m:11cc 316a:m:11ce 316b:m:11d3 316c:m:11d7 316d:m:11d9 316e:m:111c 316f:m:11dd",
     "3170:m:11df 3171:m:111d 3172:m:111e 3173:m:1120 3174:m:1122 3175:m:1123 3176:m:1127 3177:m:1129",
     "3178:m:112b 3179:m:112c 317a:m:112d 317b:m:112e 317c:m:112f 317d:m:1132 317e:m:1136 317f:m:1140",
     "3180:m:1147 3181:m:114c 3182:m:11f1 3183:m:11f2 3184:m:1157 3185:m:1158 3186:m:1159 3187:m:1184",
     "3188:m:1185 3189:m:1188 318a:m:1191 318b:m:1192 318c:m:1194 318d:m:119e 318e:m:11a1 318f:x",
     "3190:v 3192:m:4e00 3193:m:4e8c 3194:m:4e09 3195:m:56db 3196:m:4e0a 3197:m:4e2d 3198:m:4e0b",
     "3199:m:7532 319a:m:4e59 319b:m:4e19 319c:m:4e01 319d:m:5929 319e:m:5730 319f:m:4eba 31a0:v",
     "31e6:x 31f0:v 3200:m:28.1100.29 3201:m:28.1102.29 3202:m:28.1103.29 3203:m:28.1105.29",
     "3204:m:28.1106.29 3205:m:28.1107.29 3206:m:28.1109.29 3207:m:28.110b.29 3208:m:28.110c.29",
     "3209:m:28.110e.29 320a:m:28.110f.29 320b:m:28.1110.29 320c:m:28.1111.29 320d:m:28.1112.29",
     "320e:m:28.ac00.29 320f:m:28.b098.29 3210:m:28.b2e4.29 3211:m:28.b77c.29 3212:m:28.b9c8.29",
     "3213:m:28.bc14.29 3214:m:28.c0ac.29 3215:m:28.c544.29 3216:m:28.c790.29 3217:m:28.cc28.29",
     "3218:m:28.ce74.29 3219:m:28.d0c0.29 321a:m:28.d30c.29 321b:m:28.d558.29 321c:m:28.c8fc.29",
     "321d:m:28.c624.c804.29 321e:m:28.c624.d6c4.29 321f:x 3220:m:28.4e00.29 3221:m:28.4e8c.29",
     "3222:m:28.4e09.29 3223:m:28.56db.29 3224:m:28.4e94.29 3225:m:28.516d.29 3226:m:28.4e03.29",
     "3227:m:28.516b.29 3228:m:28.4e5d.29 3229:m:28.5341.29 322a:m:28.6708.29 322b:m:28.706b.29",
     "322c:m:28.6c34.29 322d:m:28.6728.29 322e:m:28.91d1.29 322f:m:28.571f.29 3230:m:28.65e5.29",
     "3231:m:28.682a.29 3232:m:28.6709.29 3233:m:28.793e.29 3234:m:28.540d.29 3235:m:28.7279.29",
     "3236:m:28.8ca1.29 3237:m:28.795d.29 3238:m:28.52b4.29 3239:m:28.4ee3.29 323a:m:28.547c.29",
     "323b:m:28.5b66.29 323c:m:28.76e3.29 323d:m:28.4f01.29 323e:m:28.8cc7.29 323f:m:28.5354.29",
     "3240:m:28.796d.29 3241:m:28.4f11.29 3242:m:28.81ea.29 3243:m:28.81f3.29 3244:m:554f 3245:m:5e7c",
     "3246:m:6587 3247:m:7b8f 3248:v 3250:m:70.74.65 3251:m:32.31 3252:m:32.32 3253:m:32.33",
     "3254:m:32.34 3255:m:32.35 3256:m:32.36 3257:m:32.37 3258:m:32.38 3259:m:32.39 325a:m:33.30",
     "325b:m:33.31 325c:m:33.32 325d:m:33.33 325e:m:33.34 325f:m:33.35 3260:m:1100 3261:m:1102",
     "3262:m:1103 3263:m:1105 3264:m:1106 3265:m:1107 3266:m:1109 3267:m:110b 3268:m:110c 3269:m:110e",
     "326a:m:110f 326b:m:1110 326c:m:1111 326d:m:1112 326e:m:ac00 326f:m:b098 3270:m:b2e4 3271:m:b77c",
     "3272:m:b9c8 3273:m:bc14 3274:m:c0ac 3275:m:c544 3276:m:c790 3277:m:cc28 3278:m:ce74 3279:m:d0c0",
     "327a:m:d30c 327b:m:d558 327c:m:cc38.ace0 327d:m:c8fc.c758 327e:m:c6b0 327f:v 3280:m:4e00",
     "3281:m:4e8c 3282:m:4e09 3283:m:56db 3284:m:4e94 3285:m:516d 3286:m:4e03 3287:m:516b 3288:m:4e5d",
     "3289:m:5341 328a:m:6708 328b:m:706b 328c:m:6c34 328d:m:6728 328e:m:91d1 328f:m:571f 3290:m:65e5",
     "3291:m:682a 3292:m:6709 3293:m:793e 3294:m:540d 3295:m:7279 3296:m:8ca1 3297:m:795d 3298:m:52b4",
     "3299:m:79d8 329a:m:7537 329b:m:5973 329c:m:9069 329d:m:512a 329e:m:5370 329f:m:6ce8 32a0:m:9805",
     "32a1:m:4f11 32a2:m:5199 32a3:m:6b63 32a4:m:4e0a 32a5:m:4e2d 32a6:m:4e0b 32a7:m:5de6 32a8:m:53f3",
     "32a9:m:533b 32aa:m:5b97 32ab:m:5b66 32ac:m:76e3 32ad:m:4f01 32ae:m:8cc7 32af:m:5354 32b0:m:591c",
     "32b1:m:33.36 32b2:m:33.37 32b3:m:33.38 32b4:m:33.39 32b5:m:34.30 32b6:m:34.31 32b7:m:34.32",
     "32b8:m:34.33 32b9:m:34.34 32ba:m:34.35 32bb:m:34.36 32bc:m:34.37 32bd:m:34.38 32be:m:34.39",
     "32bf:m:35.30 32c0:m:31.6708 32c1:m:32.6708 32c2:m:33.6708 32c3:m:34.6708 32c4:m:35.6708",
     "32c5:m:36.6708 32c6:m:37.6708 32c7:m:38.6708 32c8:m:39.6708 32c9:m:31.30.6708 32ca:m:31.31.6708",
     "32cb:m:31.32.6708 32cc:m:68.67 32cd:m:65.72.67 32ce:m:65.76 32cf:m:6c.74.64 32d0:m:30a2",
     "32d1:m:30a4 32d2:m:30a6 32d3:m:30a8 32d4:m:30aa 32d5:m:30ab 32d6:m:30ad 32d7:m:30af 32d8:m:30b1",
     "32d9:m:30b3 32da:m:30b5 32db:m:30b7 32dc:m:30b9 32dd:m:30bb 32de:m:30bd 32df:m:30bf 32e0:m:30c1",
     "32e1:m:30c4 32e2:m:30c6 32e3:m:30c8 32e4:m:30ca 32e5:m:30cb 32e6:m:30cc 32e7:m:30cd 32e8:m:30ce",
     "32e9:m:30cf 32ea:m:30d2 32eb:m:30d5 32ec:m:30d8 32ed:m:30db 32ee:m:30de 32ef:m:30df 32f0:m:30e0",
     "32f1:m:30e1 32f2:m:30e2 32f3:m:30e4 32f4:m:30e6 32f5:m:30e8 32f6:m:30e9 32f7:m:30ea 32f8:m:30eb",
     "32f9:m:30ec 32fa:m:30ed 32fb:m:30ef 32fc:m:30f0 32fd:m:30f1 32fe:m:30f2 32ff:m:4ee4.548c",
     "3300:m:30a2.30d1.30fc.30c8 3301:m:30a2.30eb.30d5.30a1 3302:m:30a2.30f3.30da.30a2",
     "3303:m:30a2.30fc.30eb 3304:m:30a4.30cb.30f3.30b0 3305:m:30a4.30f3.30c1 3306:m:30a6.30a9.30f3",
     "3307:m:30a8.30b9.30af.30fc.30c9 3308:m:30a8.30fc.30ab.30fc 3309:m:30aa.30f3.30b9",
     "330a:m:30aa.30fc.30e0 330b:m:30ab.30a4.30ea 330c:m:30ab.30e9.30c3.30c8",
     "330d:m:30ab.30ed.30ea.30fc 330e:m:30ac.30ed.30f3 330f:m:30ac.30f3.30de 3310:m:30ae.30ac",
     "3311:m:30ae.30cb.30fc 3312:m:30ad.30e5.30ea.30fc 3313:m:30ae.30eb.30c0.30fc 3314:m:30ad.30ed",
     "3315:m:30ad.30ed.30b0.30e9.30e0 3316:m:30ad.30ed.30e1.30fc.30c8.30eb",
     "3317:m:30ad.30ed.30ef.30c3.30c8 3318:m:30b0.30e9.30e0 3319:m:30b0.30e9.30e0.30c8.30f3",
     "331a:m:30af.30eb.30bc.30a4.30ed 331b:m:30af.30ed.30fc.30cd 331c:m:30b1.30fc.30b9",
     "331d:m:30b3.30eb.30ca 331e:m:30b3.30fc.30dd 331f:m:30b5.30a4.30af.30eb",
     "3320:m:30b5.30f3.30c1.30fc.30e0 3321:m:30b7.30ea.30f3.30b0 3322:m:30bb.30f3.30c1",
     "3323:m:30bb.30f3.30c8 3324:m:30c0.30fc.30b9 3325:m:30c7.30b7 3326:m:30c9.30eb 3327:m:30c8.30f3",
     "3328:m:30ca.30ce 3329:m:30ce.30c3.30c8 332a:m:30cf.30a4.30c4 332b:m:30d1.30fc.30bb.30f3.30c8",
     "332c:m:30d1.30fc.30c4 332d:m:30d0.30fc.30ec.30eb 332e:m:30d4.30a2.30b9.30c8.30eb",
     "332f:m:30d4.30af.30eb 3330:m:30d4.30b3 3331:m:30d3.30eb 3332:m:30d5.30a1.30e9.30c3.30c9",
     "3333:m:30d5.30a3.30fc.30c8 3334:m:30d6.30c3.30b7.30a7.30eb 3335:m:30d5.30e9.30f3",
     "3336:m:30d8.30af.30bf.30fc.30eb 3337:m:30da.30bd 3338:m:30da.30cb.30d2 3339:m:30d8.30eb.30c4",
     "333a:m:30da.30f3.30b9 333b:m:30da.30fc.30b8 333c:m:30d9.30fc.30bf 333d:m:30dd.30a4.30f3.30c8",
     "333e:m:30dc.30eb.30c8 333f:m:30db.30f3 3340:m:30dd.30f3.30c9 3341:m:30db.30fc.30eb",
     "3342:m:30db.30fc.30f3 3343:m:30de.30a4.30af.30ed 3344:m:30de.30a4.30eb 3345:m:30de.30c3.30cf",
     "3346:m:30de.30eb.30af 3347:m:30de.30f3.30b7.30e7.30f3 3348:m:30df.30af.30ed.30f3",
     "3349:m:30df.30ea 334a:m:30df.30ea.30d0.30fc.30eb 334b:m:30e1.30ac 334c:m:30e1.30ac.30c8.30f3",
     "334d:m:30e1.30fc.30c8.30eb 334e:m:30e4.30fc.30c9 334f:m:30e4.30fc.30eb 3350:m:30e6.30a2.30f3",
     "3351:m:30ea.30c3.30c8.30eb 3352:m:30ea.30e9 3353:m:30eb.30d4.30fc 3354:m:30eb.30fc.30d6.30eb",
     "3355:m:30ec.30e0 3356:m:30ec.30f3.30c8.30b2.30f3 3357:m:30ef.30c3.30c8 3358:m:30.70b9",
     "3359:m:31.70b9 335a:m:32.70b9 335b:m:33.70b9 335c:m:34.70b9 335d:m:35.70b9 335e:m:36.70b9",
     "335f:m:37.70b9 3360:m:38.70b9 3361:m:39.70b9 3362:m:31.30.70b9 3363:m:31.31.70b9",
     "3364:m:31.32.70b9 3365:m:31.33.70b9 3366:m:31.34.70b9 3367:m:31.35.70b9 3368:m:31.36.70b9",
     "3369:m:31.37.70b9 336a:m:31.38.70b9 336b:m:31.39.70b9 336c:m:32.30.70b9 336d:m:32.31.70b9",
     "336e:m:32.32.70b9 336f:m:32.33.70b9 3370:m:32.34.70b9 3371:m:68.70.61 3372:m:64.61 3373:m:61.75",
     "3374:m:62.61.72 3375:m:6f.76 3376:m:70.63 3377:m:64.6d 3378:m:64.6d.32 3379:m:64.6d.33",
     "337a:m:69.75 337b:m:5e73.6210 337c:m:662d.548c 337d:m:5927.6b63 337e:m:660e.6cbb",
     "337f:m:682a.5f0f.4f1a.793e 3380:m:70.61 3381:m:6e.61 3382:m:3bc.61 3383:m:6d.61 3384:m:6b.61",
     "3385:m:6b.62 3386:m:6d.62 3387:m:67.62 3388:m:63.61.6c 3389:m:6b.63.61.6c 338a:m:70.66",
     "338b:m:6e.66 338c:m:3bc.66 338d:m:3bc.67 338e:m:6d.67 338f:m:6b.67 3390:m:68.7a 3391:m:6b.68.7a",
     "3392:m:6d.68.7a 3393:m:67.68.7a 3394:m:74.68.7a 3395:m:3bc.6c 3396:m:6d.6c 3397:m:64.6c",
     "3398:m:6b.6c 3399:m:66.6d 339a:m:6e.6d 339b:m:3bc.6d 339c:m:6d.6d 339d:m:63.6d 339e:m:6b.6d",
     "339f:m:6d.6d.32 33a0:m:63.6d.32 33a1:m:6d.32 33a2:m:6b.6d.32 33a3:m:6d.6d.33 33a4:m:63.6d.33",
     "33a5:m:6d.33 33a6:m:6b.6d.33 33a7:m:6d.2215.73 33a8:m:6d.2215.73.32 33a9:m:70.61 33aa:m:6b.70.61",
     "33ab:m:6d.70.61 33ac:m:67.70.61 33ad:m:72.61.64 33ae:m:72.61.64.2215.73",
     "33af:m:72.61.64.2215.73.32 33b0:m:70.73 33b1:m:6e.73 33b2:m:3bc.73 33b3:m:6d.73 33b4:m:70.76",
     "33b5:m:6e.76 33b6:m:3bc.76 33b7:m:6d.76 33b8:m:6b.76 33b9:m:6d.76 33ba:m:70.77 33bb:m:6e.77",
     "33bc:m:3bc.77 33bd:m:6d.77 33be:m:6b.77 33bf:m:6d.77 33c0:m:6b.3c9 33c1:m:6d.3c9 33c2:x",
     "33c3:m:62.71 33c4:m:63.63 33c5:m:63.64 33c6:m:63.2215.6b.67 33c7:x 33c8:m:64.62 33c9:m:67.79",
     "33ca:m:68.61 33cb:m:68.70 33cc:m:69.6e 33cd:m:6b.6b 33ce:m:6b.6d 33cf:m:6b.74 33d0:m:6c.6d",
     "33d1:m:6c.6e 33d2:m:6c.6f.67 33d3:m:6c.78 33d4:m:6d.62 33d5:m:6d.69.6c 33d6:m:6d.6f.6c",
     "33d7:m:70.68 33d8:x 33d9:m:70.70.6d 33da:m:70.72 33db:m:73.72 33dc:m:73.76 33dd:m:77.62",
     "33de:m:76.2215.6d 33df:m:61.2215.6d 33e0:m:31.65e5 33e1:m:32.65e5 33e2:m:33.65e5 33e3:m:34.65e5",
     "33e4:m:35.65e5 33e5:m:36.65e5 33e6:m:37.65e5 33e7:m:38.65e5 33e8:m:39.65e5 33e9:m:31.30.65e5",
     "33ea:m:31.31.65e5 33eb:m:31.32.65e5 33ec:m:31.33.65e5 33ed:m:31.34.65e5 33ee:m:31.35.65e5",
     "33ef:m:31.36.65e5 33f0:m:31.37.65e5 33f1:m:31.38.65e5 33f2:m:31.39.65e5 33f3:m:32.30.65e5",
     "33f4:m:32.31.65e5 33f5:m:32.32.65e5 33f6:m:32.33.65e5 33f7:m:32.34.65e5 33f8:m:32.35.65e5",
     "33f9:m:32.36.65e5 33fa:m:32.37.65e5 33fb:m:32.38.65e5 33fc:m:32.39.65e5 33fd:m:33.30.65e5",
     "33fe:m:33.31.65e5 33ff:m:67.61.6c 3400:v a48d:x a490:v a4c7:x a4d0:v a62c:x a640:m:a641 a641:v",
     "a642:m:a643 a643:v a644:m:a645 a645:v a646:m:a647 a647:v a648:m:a649 a649:v a64a:m:a64b a64b:v",
     "a64c:m:a64d a64d:v a64e:m:a64f a64f:v a650:m:a651 a651:v a652:m:a653 a653:v a654:m:a655 a655:v",
     "a656:m:a657 a657:v a658:m:a659 a659:v a65a:m:a65b a65b:v a65c:m:a65d a65d:v a65e:m:a65f a65f:v",
     "a660:m:a661 a661:v a662:m:a663 a663:v a664:m:a665 a665:v a666:m:a667 a667:v a668:m:a669 a669:v",
     "a66a:m:a66b a66b:v a66c:m:a66d a66d:v a680:m:a681 a681:v a682:m:a683 a683:v a684:m:a685 a685:v",
     "a686:m:a687 a687:v a688:m:a689 a689:v a68a:m:a68b a68b:v a68c:m:a68d a68d:v a68e:m:a68f a68f:v",
     "a690:m:a691 a691:v a692:m:a693 a693:v a694:m:a695 a695:v a696:m:a697 a697:v a698:m:a699 a699:v",
     "a69a:m:a69b a69b:v a69c:m:44a a69d:m:44c a69e:v a6f8:x a700:v a722:m:a723 a723:v a724:m:a725",
     "a725:v a726:m:a727 a727:v a728:m:a729 a729:v a72a:m:a72b a72b:v a72c:m:a72d a72d:v a72e:m:a72f",
     "a72f:v a732:m:a733 a733:v a734:m:a735 a735:v a736:m:a737 a737:v a738:m:a739 a739:v a73a:m:a73b",
     "a73b:v a73c:m:a73d a73d:v a73e:m:a73f a73f:v a740:m:a741 a741:v a742:m:a743 a743:v a744:m:a745",
     "a745:v a746:m:a747 a747:v a748:m:a749 a749:v a74a:m:a74b a74b:v a74c:m:a74d a74d:v a74e:m:a74f",
     "a74f:v a750:m:a751 a751:v a752:m:a753 a753:v a754:m:a755 a755:v a756:m:a757 a757:v a758:m:a759",
     "a759:v a75a:m:a75b a75b:v a75c:m:a75d a75d:v a75e:m:a75f a75f:v a760:m:a761 a761:v a762:m:a763",
     "a763:v a764:m:a765 a765:v a766:m:a767 a767:v a768:m:a769 a769:v a76a:m:a76b a76b:v a76c:m:a76d",
     "a76d:v a76e:m:a76f a76f:v a770:m:a76f a771:v a779:m:a77a a77a:v a77b:m:a77c a77c:v a77d:m:1d79",
     "a77e:m:a77f a77f:v a780:m:a781 a781:v a782:m:a783 a783:v a784:m:a785 a785:v a786:m:a787 a787:v",
     "a78b:m:a78c a78c:v a78d:m:265 a78e:v a790:m:a791 a791:v a792:m:a793 a793:v a796:m:a797 a797:v",
     "a798:m:a799 a799:v a79a:m:a79b a79b:v a79c:m:a79d a79d:v a79e:m:a79f a79f:v a7a0:m:a7a1 a7a1:v",
     "a7a2:m:a7a3 a7a3:v a7a4:m:a7a5 a7a5:v a7a6:m:a7a7 a7a7:v a7a8:m:a7a9 a7a9:v a7aa:m:266",
     "a7ab:m:25c a7ac:m:261 a7ad:m:26c a7ae:m:26a a7af:v a7b0:m:29e a7b1:m:287 a7b2:m:29d a7b3:m:ab53",
     "a7b4:m:a7b5 a7b5:v a7b6:m:a7b7 a7b7:v a7b8:m:a7b9 a7b9:v a7ba:m:a7bb a7bb:v a7bc:m:a7bd a7bd:v",
     "a7be:m:a7bf a7bf:v a7c0:m:a7c1 a7c1:v a7c2:m:a7c3 a7c3:v a7c4:m:a794 a7c5:m:282 a7c6:m:1d8e",
     "a7c7:m:a7c8 a7c8:v a7c9:m:a7ca a7ca:v a7cb:m:264 a7cc:m:a7cd a7cd:v a7ce:m:a7cf a7cf:v",
     "a7d0:m:a7d1 a7d1:v a7d2:m:a7d3 a7d3:v a7d4:m:a7d5 a7d5:v a7d6:m:a7d7 a7d7:v a7d8:m:a7d9 a7d9:v",
     "a7da:m:a7db a7db:v a7dc:m:19b a7dd:x a7f1:m:73 a7f2:m:63 a7f3:m:66 a7f4:m:71 a7f5:m:a7f6 a7f6:v",
     "a7f8:m:127 a7f9:m:153 a7fa:v a82d:x a830:v a83a:x a840:v a878:x a880:v a8c6:x a8ce:v a8da:x",
     "a8e0:v a954:x a95f:v a97d:x a980:v a9ce:x a9cf:v a9da:x a9de:v a9ff:x aa00:v aa37:x aa40:v",
     "aa4e:x aa50:v aa5a:x aa5c:v aac3:x aadb:v aaf7:x ab01:v ab07:x ab09:v ab0f:x ab11:v ab17:x",
     "ab20:v ab27:x ab28:v ab2f:x ab30:v ab5c:m:a727 ab5d:m:ab37 ab5e:m:26b ab5f:m:ab52 ab60:v",
     "ab69:m:28d ab6a:v ab6c:x ab70:m:13a0 ab71:m:13a1 ab72:m:13a2 ab73:m:13a3 ab74:m:13a4 ab75:m:13a5",
     "ab76:m:13a6 ab77:m:13a7 ab78:m:13a8 ab79:m:13a9 ab7a:m:13aa ab7b:m:13ab ab7c:m:13ac ab7d:m:13ad",
     "ab7e:m:13ae ab7f:m:13af ab80:m:13b0 ab81:m:13b1 ab82:m:13b2 ab83:m:13b3 ab84:m:13b4 ab85:m:13b5",
     "ab86:m:13b6 ab87:m:13b7 ab88:m:13b8 ab89:m:13b9 ab8a:m:13ba ab8b:m:13bb ab8c:m:13bc ab8d:m:13bd",
     "ab8e:m:13be ab8f:m:13bf ab90:m:13c0 ab91:m:13c1 ab92:m:13c2 ab93:m:13c3 ab94:m:13c4 ab95:m:13c5",
     "ab96:m:13c6 ab97:m:13c7 ab98:m:13c8 ab99:m:13c9 ab9a:m:13ca ab9b:m:13cb ab9c:m:13cc ab9d:m:13cd",
     "ab9e:m:13ce ab9f:m:13cf aba0:m:13d0 aba1:m:13d1 aba2:m:13d2 aba3:m:13d3 aba4:m:13d4 aba5:m:13d5",
     "aba6:m:13d6 aba7:m:13d7 aba8:m:13d8 aba9:m:13d9 abaa:m:13da abab:m:13db abac:m:13dc abad:m:13dd",
     "abae:m:13de abaf:m:13df abb0:m:13e0 abb1:m:13e1 abb2:m:13e2 abb3:m:13e3 abb4:m:13e4 abb5:m:13e5",
     "abb6:m:13e6 abb7:m:13e7 abb8:m:13e8 abb9:m:13e9 abba:m:13ea abbb:m:13eb abbc:m:13ec abbd:m:13ed",
     "abbe:m:13ee abbf:m:13ef abc0:v abee:x abf0:v abfa:x ac00:v d7a4:x d7b0:v d7c7:x d7cb:v d7fc:x",
     "f900:m:8c48 f901:m:66f4 f902:m:8eca f903:m:8cc8 f904:m:6ed1 f905:m:4e32 f906:m:53e5 f907:m:9f9c",
     "f909:m:5951 f90a:m:91d1 f90b:m:5587 f90c:m:5948 f90d:m:61f6 f90e:m:7669 f90f:m:7f85 f910:m:863f",
     "f911:m:87ba f912:m:88f8 f913:m:908f f914:m:6a02 f915:m:6d1b f916:m:70d9 f917:m:73de f918:m:843d",
     "f919:m:916a f91a:m:99f1 f91b:m:4e82 f91c:m:5375 f91d:m:6b04 f91e:m:721b f91f:m:862d f920:m:9e1e",
     "f921:m:5d50 f922:m:6feb f923:m:85cd f924:m:8964 f925:m:62c9 f926:m:81d8 f927:m:881f f928:m:5eca",
     "f929:m:6717 f92a:m:6d6a f92b:m:72fc f92c:m:90ce f92d:m:4f86 f92e:m:51b7 f92f:m:52de f930:m:64c4",
     "f931:m:6ad3 f932:m:7210 f933:m:76e7 f934:m:8001 f935:m:8606 f936:m:865c f937:m:8def f938:m:9732",
     "f939:m:9b6f f93a:m:9dfa f93b:m:788c f93c:m:797f f93d:m:7da0 f93e:m:83c9 f93f:m:9304 f940:m:9e7f",
     "f941:m:8ad6 f942:m:58df f943:m:5f04 f944:m:7c60 f945:m:807e f946:m:7262 f947:m:78ca f948:m:8cc2",
     "f949:m:96f7 f94a:m:58d8 f94b:m:5c62 f94c:m:6a13 f94d:m:6dda f94e:m:6f0f f94f:m:7d2f f950:m:7e37",
     "f951:m:964b f952:m:52d2 f953:m:808b f954:m:51dc f955:m:51cc f956:m:7a1c f957:m:7dbe f958:m:83f1",
     "f959:m:9675 f95a:m:8b80 f95b:m:62cf f95c:m:6a02 f95d:m:8afe f95e:m:4e39 f95f:m:5be7 f960:m:6012",
     "f961:m:7387 f962:m:7570 f963:m:5317 f964:m:78fb f965:m:4fbf f966:m:5fa9 f967:m:4e0d f968:m:6ccc",
     "f969:m:6578 f96a:m:7d22 f96b:m:53c3 f96c:m:585e f96d:m:7701 f96e:m:8449 f96f:m:8aaa f970:m:6bba",
     "f971:m:8fb0 f972:m:6c88 f973:m:62fe f974:m:82e5 f975:m:63a0 f976:m:7565 f977:m:4eae f978:m:5169",
     "f979:m:51c9 f97a:m:6881 f97b:m:7ce7 f97c:m:826f f97d:m:8ad2 f97e:m:91cf f97f:m:52f5 f980:m:5442",
     "f981:m:5973 f982:m:5eec f983:m:65c5 f984:m:6ffe f985:m:792a f986:m:95ad f987:m:9a6a f988:m:9e97",
     "f989:m:9ece f98a:m:529b f98b:m:66c6 f98c:m:6b77 f98d:m:8f62 f98e:m:5e74 f98f:m:6190 f990:m:6200",
     "f991:m:649a f992:m:6f23 f993:m:7149 f994:m:7489 f995:m:79ca f996:m:7df4 f997:m:806f f998:m:8f26",
     "f999:m:84ee f99a:m:9023 f99b:m:934a f99c:m:5217 f99d:m:52a3 f99e:m:54bd f99f:m:70c8 f9a0:m:88c2",
     "f9a1:m:8aaa f9a2:m:5ec9 f9a3:m:5ff5 f9a4:m:637b f9a5:m:6bae f9a6:m:7c3e f9a7:m:7375 f9a8:m:4ee4",
     "f9a9:m:56f9 f9aa:m:5be7 f9ab:m:5dba f9ac:m:601c f9ad:m:73b2 f9ae:m:7469 f9af:m:7f9a f9b0:m:8046",
     "f9b1:m:9234 f9b2:m:96f6 f9b3:m:9748 f9b4:m:9818 f9b5:m:4f8b f9b6:m:79ae f9b7:m:91b4 f9b8:m:96b8",
     "f9b9:m:60e1 f9ba:m:4e86 f9bb:m:50da f9bc:m:5bee f9bd:m:5c3f f9be:m:6599 f9bf:m:6a02 f9c0:m:71ce",
     "f9c1:m:7642 f9c2:m:84fc f9c3:m:907c f9c4:m:9f8d f9c5:m:6688 f9c6:m:962e f9c7:m:5289 f9c8:m:677b",
     "f9c9:m:67f3 f9ca:m:6d41 f9cb:m:6e9c f9cc:m:7409 f9cd:m:7559 f9ce:m:786b f9cf:m:7d10 f9d0:m:985e",
     "f9d1:m:516d f9d2:m:622e f9d3:m:9678 f9d4:m:502b f9d5:m:5d19 f9d6:m:6dea f9d7:m:8f2a f9d8:m:5f8b",
     "f9d9:m:6144 f9da:m:6817 f9db:m:7387 f9dc:m:9686 f9dd:m:5229 f9de:m:540f f9df:m:5c65 f9e0:m:6613",
     "f9e1:m:674e f9e2:m:68a8 f9e3:m:6ce5 f9e4:m:7406 f9e5:m:75e2 f9e6:m:7f79 f9e7:m:88cf f9e8:m:88e1",
     "f9e9:m:91cc f9ea:m:96e2 f9eb:m:533f f9ec:m:6eba f9ed:m:541d f9ee:m:71d0 f9ef:m:7498 f9f0:m:85fa",
     "f9f1:m:96a3 f9f2:m:9c57 f9f3:m:9e9f f9f4:m:6797 f9f5:m:6dcb f9f6:m:81e8 f9f7:m:7acb f9f8:m:7b20",
     "f9f9:m:7c92 f9fa:m:72c0 f9fb:m:7099 f9fc:m:8b58 f9fd:m:4ec0 f9fe:m:8336 f9ff:m:523a fa00:m:5207",
     "fa01:m:5ea6 fa02:m:62d3 fa03:m:7cd6 fa04:m:5b85 fa05:m:6d1e fa06:m:66b4 fa07:m:8f3b fa08:m:884c",
     "fa09:m:964d fa0a:m:898b fa0b:m:5ed3 fa0c:m:5140 fa0d:m:55c0 fa0e:v fa10:m:585a fa11:v",
     "fa12:m:6674 fa13:v fa15:m:51de fa16:m:732a fa17:m:76ca fa18:m:793c fa19:m:795e fa1a:m:7965",
     "fa1b:m:798f fa1c:m:9756 fa1d:m:7cbe fa1e:m:7fbd fa1f:v fa20:m:8612 fa21:v fa22:m:8af8 fa23:v",
     "fa25:m:9038 fa26:m:90fd fa27:v fa2a:m:98ef fa2b:m:98fc fa2c:m:9928 fa2d:m:9db4 fa2e:m:90de",
     "fa2f:m:96b7 fa30:m:4fae fa31:m:50e7 fa32:m:514d fa33:m:52c9 fa34:m:52e4 fa35:m:5351 fa36:m:559d",
     "fa37:m:5606 fa38:m:5668 fa39:m:5840 fa3a:m:58a8 fa3b:m:5c64 fa3c:m:5c6e fa3d:m:6094 fa3e:m:6168",
     "fa3f:m:618e fa40:m:61f2 fa41:m:654f fa42:m:65e2 fa43:m:6691 fa44:m:6885 fa45:m:6d77 fa46:m:6e1a",
     "fa47:m:6f22 fa48:m:716e fa49:m:722b fa4a:m:7422 fa4b:m:7891 fa4c:m:793e fa4d:m:7949 fa4e:m:7948",
     "fa4f:m:7950 fa50:m:7956 fa51:m:795d fa52:m:798d fa53:m:798e fa54:m:7a40 fa55:m:7a81 fa56:m:7bc0",
     "fa57:m:7df4 fa58:m:7e09 fa59:m:7e41 fa5a:m:7f72 fa5b:m:8005 fa5c:m:81ed fa5d:m:8279 fa5f:m:8457",
     "fa60:m:8910 fa61:m:8996 fa62:m:8b01 fa63:m:8b39 fa64:m:8cd3 fa65:m:8d08 fa66:m:8fb6 fa67:m:9038",
     "fa68:m:96e3 fa69:m:97ff fa6a:m:983b fa6b:m:6075 fa6c:m:242ee fa6d:m:8218 fa6e:x fa70:m:4e26",
     "fa71:m:51b5 fa72:m:5168 fa73:m:4f80 fa74:m:5145 fa75:m:5180 fa76:m:52c7 fa77:m:52fa fa78:m:559d",
     "fa79:m:5555 fa7a:m:5599 fa7b:m:55e2 fa7c:m:585a fa7d:m:58b3 fa7e:m:5944 fa7f:m:5954 fa80:m:5a62",
     "fa81:m:5b28 fa82:m:5ed2 fa83:m:5ed9 fa84:m:5f69 fa85:m:5fad fa86:m:60d8 fa87:m:614e fa88:m:6108",
     "fa89:m:618e fa8a:m:6160 fa8b:m:61f2 fa8c:m:6234 fa8d:m:63c4 fa8e:m:641c fa8f:m:6452 fa90:m:6556",
     "fa91:m:6674 fa92:m:6717 fa93:m:671b fa94:m:6756 fa95:m:6b79 fa96:m:6bba fa97:m:6d41 fa98:m:6edb",
     "fa99:m:6ecb fa9a:m:6f22 fa9b:m:701e fa9c:m:716e fa9d:m:77a7 fa9e:m:7235 fa9f:m:72af faa0:m:732a",
     "faa1:m:7471 faa2:m:7506 faa3:m:753b faa4:m:761d faa5:m:761f faa6:m:76ca faa7:m:76db faa8:m:76f4",
     "faa9:m:774a faaa:m:7740 faab:m:78cc faac:m:7ab1 faad:m:7bc0 faae:m:7c7b faaf:m:7d5b fab0:m:7df4",
     "fab1:m:7f3e fab2:m:8005 fab3:m:8352 fab4:m:83ef fab5:m:8779 fab6:m:8941 fab7:m:8986 fab8:m:8996",
     "fab9:m:8abf faba:m:8af8 fabb:m:8acb fabc:m:8b01 fabd:m:8afe fabe:m:8aed fabf:m:8b39 fac0:m:8b8a",
     "fac1:m:8d08 fac2:m:8f38 fac3:m:9072 fac4:m:9199 fac5:m:9276 fac6:m:967c fac7:m:96e3 fac8:m:9756",
     "fac9:m:97db faca:m:97ff facb:m:980b facc:m:983b facd:m:9b12 face:m:9f9c facf:m:2284a",
     "fad0:m:22844 fad1:m:233d5 fad2:m:3b9d fad3:m:4018 fad4:m:4039 fad5:m:25249 fad6:m:25cd0",
     "fad7:m:27ed3 fad8:m:9f43 fad9:m:9f8e fada:x fb00:m:66.66 fb01:m:66.69 fb02:m:66.6c",
     "fb03:m:66.66.69 fb04:m:66.66.6c fb05:m:73.74 fb07:x fb13:m:574.576 fb14:m:574.565 fb15:m:574.56b",
     "fb16:m:57e.576 fb17:m:574.56d fb18:x fb1d:m:5d9.5b4 fb1e:v fb1f:m:5f2.5b7 fb20:m:5e2 fb21:m:5d0",
     "fb22:m:5d3 fb23:m:5d4 fb24:m:5db fb25:m:5dc fb26:m:5dd fb27:m:5e8 fb28:m:5ea fb29:m:2b",
     "fb2a:m:5e9.5c1 fb2b:m:5e9.5c2 fb2c:m:5e9.5bc.5c1 fb2d:m:5e9.5bc.5c2 fb2e:m:5d0.5b7",
     "fb2f:m:5d0.5b8 fb30:m:5d0.5bc fb31:m:5d1.5bc fb32:m:5d2.5bc fb33:m:5d3.5bc fb34:m:5d4.5bc",
     "fb35:m:5d5.5bc fb36:m:5d6.5bc fb37:x fb38:m:5d8.5bc fb39:m:5d9.5bc fb3a:m:5da.5bc fb3b:m:5db.5bc",
     "fb3c:m:5dc.5bc fb3d:x fb3e:m:5de.5bc fb3f:x fb40:m:5e0.5bc fb41:m:5e1.5bc fb42:x fb43:m:5e3.5bc",
     "fb44:m:5e4.5bc fb45:x fb46:m:5e6.5bc fb47:m:5e7.5bc fb48:m:5e8.5bc fb49:m:5e9.5bc fb4a:m:5ea.5bc",
     "fb4b:m:5d5.5b9 fb4c:m:5d1.5bf fb4d:m:5db.5bf fb4e:m:5e4.5bf fb4f:m:5d0.5dc fb50:m:671 fb52:m:67b",
     "fb56:m:67e fb5a:m:680 fb5e:m:67a fb62:m:67f fb66:m:679 fb6a:m:6a4 fb6e:m:6a6 fb72:m:684",
     "fb76:m:683 fb7a:m:686 fb7e:m:687 fb82:m:68d fb84:m:68c fb86:m:68e fb88:m:688 fb8a:m:698",
     "fb8c:m:691 fb8e:m:6a9 fb92:m:6af fb96:m:6b3 fb9a:m:6b1 fb9e:m:6ba fba0:m:6bb fba4:m:6c0",
     "fba6:m:6c1 fbaa:m:6be fbae:m:6d2 fbb0:m:6d3 fbb2:v fbd3:m:6ad fbd7:m:6c7 fbd9:m:6c6 fbdb:m:6c8",
     "fbdd:m:6c7.674 fbde:m:6cb fbe0:m:6c5 fbe2:m:6c9 fbe4:m:6d0 fbe8:m:649 fbea:m:626.627",
     "fbec:m:626.6d5 fbee:m:626.648 fbf0:m:626.6c7 fbf2:m:626.6c6 fbf4:m:626.6c8 fbf6:m:626.6d0",
     "fbf9:m:626.649 fbfc:m:6cc fc00:m:626.62c fc01:m:626.62d fc02:m:626.645 fc03:m:626.649",
     "fc04:m:626.64a fc05:m:628.62c fc06:m:628.62d fc07:m:628.62e fc08:m:628.645 fc09:m:628.649",
     "fc0a:m:628.64a fc0b:m:62a.62c fc0c:m:62a.62d fc0d:m:62a.62e fc0e:m:62a.645 fc0f:m:62a.649",
     "fc10:m:62a.64a fc11:m:62b.62c fc12:m:62b.645 fc13:m:62b.649 fc14:m:62b.64a fc15:m:62c.62d",
     "fc16:m:62c.645 fc17:m:62d.62c fc18:m:62d.645 fc19:m:62e.62c fc1a:m:62e.62d fc1b:m:62e.645",
     "fc1c:m:633.62c fc1d:m:633.62d fc1e:m:633.62e fc1f:m:633.645 fc20:m:635.62d fc21:m:635.645",
     "fc22:m:636.62c fc23:m:636.62d fc24:m:636.62e fc25:m:636.645 fc26:m:637.62d fc27:m:637.645",
     "fc28:m:638.645 fc29:m:639.62c fc2a:m:639.645 fc2b:m:63a.62c fc2c:m:63a.645 fc2d:m:641.62c",
     "fc2e:m:641.62d fc2f:m:641.62e fc30:m:641.645 fc31:m:641.649 fc32:m:641.64a fc33:m:642.62d",
     "fc34:m:642.645 fc35:m:642.649 fc36:m:642.64a fc37:m:643.627 fc38:m:643.62c fc39:m:643.62d",
     "fc3a:m:643.62e fc3b:m:643.644 fc3c:m:643.645 fc3d:m:643.649 fc3e:m:643.64a fc3f:m:644.62c",
     "fc40:m:644.62d fc41:m:644.62e fc42:m:644.645 fc43:m:644.649 fc44:m:644.64a fc45:m:645.62c",
     "fc46:m:645.62d fc47:m:645.62e fc48:m:645.645 fc49:m:645.649 fc4a:m:645.64a fc4b:m:646.62c",
     "fc4c:m:646.62d fc4d:m:646.62e fc4e:m:646.645 fc4f:m:646.649 fc50:m:646.64a fc51:m:647.62c",
     "fc52:m:647.645 fc53:m:647.649 fc54:m:647.64a fc55:m:64a.62c fc56:m:64a.62d fc57:m:64a.62e",
     "fc58:m:64a.645 fc59:m:64a.649 fc5a:m:64a.64a fc5b:m:630.670 fc5c:m:631.670 fc5d:m:649.670",
     "fc5e:m:20.64c.651 fc5f:m:20.64d.651 fc60:m:20.64e.651 fc61:m:20.64f.651 fc62:m:20.650.651",
     "fc63:m:20.651.670 fc64:m:626.631 fc65:m:626.632 fc66:m:626.645 fc67:m:626.646 fc68:m:626.649",
     "fc69:m:626.64a fc6a:m:628.631 fc6b:m:628.632 fc6c:m:628.645 fc6d:m:628.646 fc6e:m:628.649",
     "fc6f:m:628.64a fc70:m:62a.631 fc71:m:62a.632 fc72:m:62a.645 fc73:m:62a.646 fc74:m:62a.649",
     "fc75:m:62a.64a fc76:m:62b.631 fc77:m:62b.632 fc78:m:62b.645 fc79:m:62b.646 fc7a:m:62b.649",
     "fc7b:m:62b.64a fc7c:m:641.649 fc7d:m:641.64a fc7e:m:642.649 fc7f:m:642.64a fc80:m:643.627",
     "fc81:m:643.644 fc82:m:643.645 fc83:m:643.649 fc84:m:643.64a fc85:m:644.645 fc86:m:644.649",
     "fc87:m:644.64a fc88:m:645.627 fc89:m:645.645 fc8a:m:646.631 fc8b:m:646.632 fc8c:m:646.645",
     "fc8d:m:646.646 fc8e:m:646.649 fc8f:m:646.64a fc90:m:649.670 fc91:m:64a.631 fc92:m:64a.632",
     "fc93:m:64a.645 fc94:m:64a.646 fc95:m:64a.649 fc96:m:64a.64a fc97:m:626.62c fc98:m:626.62d",
     "fc99:m:626.62e fc9a:m:626.645 fc9b:m:626.647 fc9c:m:628.62c fc9d:m:628.62d fc9e:m:628.62e",
     "fc9f:m:628.645 fca0:m:628.647 fca1:m:62a.62c fca2:m:62a.62d fca3:m:62a.62e fca4:m:62a.645",
     "fca5:m:62a.647 fca6:m:62b.645 fca7:m:62c.62d fca8:m:62c.645 fca9:m:62d.62c fcaa:m:62d.645",
     "fcab:m:62e.62c fcac:m:62e.645 fcad:m:633.62c fcae:m:633.62d fcaf:m:633.62e fcb0:m:633.645",
     "fcb1:m:635.62d fcb2:m:635.62e fcb3:m:635.645 fcb4:m:636.62c fcb5:m:636.62d fcb6:m:636.62e",
     "fcb7:m:636.645 fcb8:m:637.62d fcb9:m:638.645 fcba:m:639.62c fcbb:m:639.645 fcbc:m:63a.62c",
     "fcbd:m:63a.645 fcbe:m:641.62c fcbf:m:641.62d fcc0:m:641.62e fcc1:m:641.645 fcc2:m:642.62d",
     "fcc3:m:642.645 fcc4:m:643.62c fcc5:m:643.62d fcc6:m:643.62e fcc7:m:643.644 fcc8:m:643.645",
     "fcc9:m:644.62c fcca:m:644.62d fccb:m:644.62e fccc:m:644.645 fccd:m:644.647 fcce:m:645.62c",
     "fccf:m:645.62d fcd0:m:645.62e fcd1:m:645.645 fcd2:m:646.62c fcd3:m:646.62d fcd4:m:646.62e",
     "fcd5:m:646.645 fcd6:m:646.647 fcd7:m:647.62c fcd8:m:647.645 fcd9:m:647.670 fcda:m:64a.62c",
     "fcdb:m:64a.62d fcdc:m:64a.62e fcdd:m:64a.645 fcde:m:64a.647 fcdf:m:626.645 fce0:m:626.647",
     "fce1:m:628.645 fce2:m:628.647 fce3:m:62a.645 fce4:m:62a.647 fce5:m:62b.645 fce6:m:62b.647",
     "fce7:m:633.645 fce8:m:633.647 fce9:m:634.645 fcea:m:634.647 fceb:m:643.644 fcec:m:643.645",
     "fced:m:644.645 fcee:m:646.645 fcef:m:646.647 fcf0:m:64a.645 fcf1:m:64a.647 fcf2:m:640.64e.651",
     "fcf3:m:640.64f.651 fcf4:m:640.650.651 fcf5:m:637.649 fcf6:m:637.64a fcf7:m:639.649",
     "fcf8:m:639.64a fcf9:m:63a.649 fcfa:m:63a.64a fcfb:m:633.649 fcfc:m:633.64a fcfd:m:634.649",
     "fcfe:m:634.64a fcff:m:62d.649 fd00:m:62d.64a fd01:m:62c.649 fd02:m:62c.64a fd03:m:62e.649",
     "fd04:m:62e.64a fd05:m:635.649 fd06:m:635.64a fd07:m:636.649 fd08:m:636.64a fd09:m:634.62c",
     "fd0a:m:634.62d fd0b:m:634.62e fd0c:m:634.645 fd0d:m:634.631 fd0e:m:633.631 fd0f:m:635.631",
     "fd10:m:636.631 fd11:m:637.649 fd12:m:637.64a fd13:m:639.649 fd14:m:639.64a fd15:m:63a.649",
     "fd16:m:63a.64a fd17:m:633.649 fd18:m:633.64a fd19:m:634.649 fd1a:m:634.64a fd1b:m:62d.649",
     "fd1c:m:62d.64a fd1d:m:62c.649 fd1e:m:62c.64a fd1f:m:62e.649 fd20:m:62e.64a fd21:m:635.649",
     "fd22:m:635.64a fd23:m:636.649 fd24:m:636.64a fd25:m:634.62c fd26:m:634.62d fd27:m:634.62e",
     "fd28:m:634.645 fd29:m:634.631 fd2a:m:633.631 fd2b:m:635.631 fd2c:m:636.631 fd2d:m:634.62c",
     "fd2e:m:634.62d fd2f:m:634.62e fd30:m:634.645 fd31:m:633.647 fd32:m:634.647 fd33:m:637.645",
     "fd34:m:633.62c fd35:m:633.62d fd36:m:633.62e fd37:m:634.62c fd38:m:634.62d fd39:m:634.62e",
     "fd3a:m:637.645 fd3b:m:638.645 fd3c:m:627.64b fd3e:v fd50:m:62a.62c.645 fd51:m:62a.62d.62c",
     "fd53:m:62a.62d.645 fd54:m:62a.62e.645 fd55:m:62a.645.62c fd56:m:62a.645.62d fd57:m:62a.645.62e",
     "fd58:m:62c.645.62d fd5a:m:62d.645.64a fd5b:m:62d.645.649 fd5c:m:633.62d.62c fd5d:m:633.62c.62d",
     "fd5e:m:633.62c.649 fd5f:m:633.645.62d fd61:m:633.645.62c fd62:m:633.645.645 fd64:m:635.62d.62d",
     "fd66:m:635.645.645 fd67:m:634.62d.645 fd69:m:634.62c.64a fd6a:m:634.645.62e fd6c:m:634.645.645",
     "fd6e:m:636.62d.649 fd6f:m:636.62e.645 fd71:m:637.645.62d fd73:m:637.645.645 fd74:m:637.645.64a",
     "fd75:m:639.62c.645 fd76:m:639.645.645 fd78:m:639.645.649 fd79:m:63a.645.645 fd7a:m:63a.645.64a",
     "fd7b:m:63a.645.649 fd7c:m:641.62e.645 fd7e:m:642.645.62d fd7f:m:642.645.645 fd80:m:644.62d.645",
     "fd81:m:644.62d.64a fd82:m:644.62d.649 fd83:m:644.62c.62c fd85:m:644.62e.645 fd87:m:644.645.62d",
     "fd89:m:645.62d.62c fd8a:m:645.62d.645 fd8b:m:645.62d.64a fd8c:m:645.62c.62d fd8d:m:645.62c.645",
     "fd8e:m:645.62e.62c fd8f:m:645.62e.645 fd90:v fd92:m:645.62c.62e fd93:m:647.645.62c",
     "fd94:m:647.645.645 fd95:m:646.62d.645 fd96:m:646.62d.649 fd97:m:646.62c.645 fd99:m:646.62c.649",
     "fd9a:m:646.645.64a fd9b:m:646.645.649 fd9c:m:64a.645.645 fd9e:m:628.62e.64a fd9f:m:62a.62c.64a",
     "fda0:m:62a.62c.649 fda1:m:62a.62e.64a fda2:m:62a.62e.649 fda3:m:62a.645.64a fda4:m:62a.645.649",
     "fda5:m:62c.645.64a fda6:m:62c.62d.649 fda7:m:62c.645.649 fda8:m:633.62e.649 fda9:m:635.62d.64a",
     "fdaa:m:634.62d.64a fdab:m:636.62d.64a fdac:m:644.62c.64a fdad:m:644.645.64a fdae:m:64a.62d.64a",
     "fdaf:m:64a.62c.64a fdb0:m:64a.645.64a fdb1:m:645.645.64a fdb2:m:642.645.64a fdb3:m:646.62d.64a",
     "fdb4:m:642.645.62d fdb5:m:644.62d.645 fdb6:m:639.645.64a fdb7:m:643.645.64a fdb8:m:646.62c.62d",
     "fdb9:m:645.62e.64a fdba:m:644.62c.645 fdbb:m:643.645.645 fdbc:m:644.62c.645 fdbd:m:646.62c.62d",
     "fdbe:m:62c.62d.64a fdbf:m:62d.62c.64a fdc0:m:645.62c.64a fdc1:m:641.645.64a fdc2:m:628.62d.64a",
     "fdc3:m:643.645.645 fdc4:m:639.62c.645 fdc5:m:635.645.645 fdc6:m:633.62e.64a fdc7:m:646.62c.64a",
     "fdc8:v fdd0:x fdf0:m:635.644.6d2 fdf1:m:642.644.6d2 fdf2:m:627.644.644.647",
     "fdf3:m:627.643.628.631 fdf4:m:645.62d.645.62f fdf5:m:635.644.639.645 fdf6:m:631.633.648.644",
     "fdf7:m:639.644.64a.647 fdf8:m:648.633.644.645 fdf9:m:635.644.649",
     "fdfa:m:635.644.649.20.627.644.644.647.20.639.644.64a.647.20.648.633.644.645",
     "fdfb:m:62c.644.20.62c.644.627.644.647 fdfc:m:631.6cc.627.644 fdfd:v fe00:i fe10:m:2c fe11:m:3001",
     "fe12:x fe13:m:3a fe14:m:3b fe15:m:21 fe16:m:3f fe17:m:3016 fe18:m:3017 fe19:x fe20:v fe30:x",
     "fe31:m:2014 fe32:m:2013 fe33:m:5f fe35:m:28 fe36:m:29 fe37:m:7b fe38:m:7d fe39:m:3014",
     "fe3a:m:3015 fe3b:m:3010 fe3c:m:3011 fe3d:m:300a fe3e:m:300b fe3f:m:3008 fe40:m:3009 fe41:m:300c",
     "fe42:m:300d fe43:m:300e fe44:m:300f fe45:v fe47:m:5b fe48:m:5d fe49:m:20.305 fe4d:m:5f fe50:m:2c",
     "fe51:m:3001 fe52:x fe54:m:3b fe55:m:3a fe56:m:3f fe57:m:21 fe58:m:2014 fe59:m:28 fe5a:m:29",
     "fe5b:m:7b fe5c:m:7d fe5d:m:3014 fe5e:m:3015 fe5f:m:23 fe60:m:26 fe61:m:2a fe62:m:2b fe63:m:2d",
     "fe64:m:3c fe65:m:3e fe66:m:3d fe67:x fe68:m:5c fe69:m:24 fe6a:m:25 fe6b:m:40 fe6c:x",
     "fe70:m:20.64b fe71:m:640.64b fe72:m:20.64c fe73:v fe74:m:20.64d fe75:x fe76:m:20.64e",
     "fe77:m:640.64e fe78:m:20.64f fe79:m:640.64f fe7a:m:20.650 fe7b:m:640.650 fe7c:m:20.651",
     "fe7d:m:640.651 fe7e:m:20.652 fe7f:m:640.652 fe80:m:621 fe81:m:622 fe83:m:623 fe85:m:624",
     "fe87:m:625 fe89:m:626 fe8d:m:627 fe8f:m:628 fe93:m:629 fe95:m:62a fe99:m:62b fe9d:m:62c",
     "fea1:m:62d fea5:m:62e fea9:m:62f feab:m:630 fead:m:631 feaf:m:632 feb1:m:633 feb5:m:634",
     "feb9:m:635 febd:m:636 fec1:m:637 fec5:m:638 fec9:m:639 fecd:m:63a fed1:m:641 fed5:m:642",
     "fed9:m:643 fedd:m:644 fee1:m:645 fee5:m:646 fee9:m:647 feed:m:648 feef:m:649 fef1:m:64a",
     "fef5:m:644.622 fef7:m:644.623 fef9:m:644.625 fefb:m:644.627 fefd:x feff:i ff00:x ff01:m:21",
     "ff02:m:22 ff03:m:23 ff04:m:24 ff05:m:25 ff06:m:26 ff07:m:27 ff08:m:28 ff09:m:29 ff0a:m:2a",
     "ff0b:m:2b ff0c:m:2c ff0d:m:2d ff0e:m:2e ff0f:m:2f ff10:m:30 ff11:m:31 ff12:m:32 ff13:m:33",
     "ff14:m:34 ff15:m:35 ff16:m:36 ff17:m:37 ff18:m:38 ff19:m:39 ff1a:m:3a ff1b:m:3b ff1c:m:3c",
     "ff1d:m:3d ff1e:m:3e ff1f:m:3f ff20:m:40 ff21:m:61 ff22:m:62 ff23:m:63 ff24:m:64 ff25:m:65",
     "ff26:m:66 ff27:m:67 ff28:m:68 ff29:m:69 ff2a:m:6a ff2b:m:6b ff2c:m:6c ff2d:m:6d ff2e:m:6e",
     "ff2f:m:6f ff30:m:70 ff31:m:71 ff32:m:72 ff33:m:73 ff34:m:74 ff35:m:75 ff36:m:76 ff37:m:77",
     "ff38:m:78 ff39:m:79 ff3a:m:7a ff3b:m:5b ff3c:m:5c ff3d:m:5d ff3e:m:5e ff3f:m:5f ff40:m:60",
     "ff41:m:61 ff42:m:62 ff43:m:63 ff44:m:64 ff45:m:65 ff46:m:66 ff47:m:67 ff48:m:68 ff49:m:69",
     "ff4a:m:6a ff4b:m:6b ff4c:m:6c ff4d:m:6d ff4e:m:6e ff4f:m:6f ff50:m:70 ff51:m:71 ff52:m:72",
     "ff53:m:73 ff54:m:74 ff55:m:75 ff56:m:76 ff57:m:77 ff58:m:78 ff59:m:79 ff5a:m:7a ff5b:m:7b",
     "ff5c:m:7c ff5d:m:7d ff5e:m:7e ff5f:m:2985 ff60:m:2986 ff61:m:2e ff62:m:300c ff63:m:300d",
     "ff64:m:3001 ff65:m:30fb ff66:m:30f2 ff67:m:30a1 ff68:m:30a3 ff69:m:30a5 ff6a:m:30a7 ff6b:m:30a9",
     "ff6c:m:30e3 ff6d:m:30e5 ff6e:m:30e7 ff6f:m:30c3 ff70:m:30fc ff71:m:30a2 ff72:m:30a4 ff73:m:30a6",
     "ff74:m:30a8 ff75:m:30aa ff76:m:30ab ff77:m:30ad ff78:m:30af ff79:m:30b1 ff7a:m:30b3 ff7b:m:30b5",
     "ff7c:m:30b7 ff7d:m:30b9 ff7e:m:30bb ff7f:m:30bd ff80:m:30bf ff81:m:30c1 ff82:m:30c4 ff83:m:30c6",
     "ff84:m:30c8 ff85:m:30ca ff86:m:30cb ff87:m:30cc ff88:m:30cd ff89:m:30ce ff8a:m:30cf ff8b:m:30d2",
     "ff8c:m:30d5 ff8d:m:30d8 ff8e:m:30db ff8f:m:30de ff90:m:30df ff91:m:30e0 ff92:m:30e1 ff93:m:30e2",
     "ff94:m:30e4 ff95:m:30e6 ff96:m:30e8 ff97:m:30e9 ff98:m:30ea ff99:m:30eb ff9a:m:30ec ff9b:m:30ed",
     "ff9c:m:30ef ff9d:m:30f3 ff9e:m:3099 ff9f:m:309a ffa0:i ffa1:m:1100 ffa2:m:1101 ffa3:m:11aa",
     "ffa4:m:1102 ffa5:m:11ac ffa6:m:11ad ffa7:m:1103 ffa8:m:1104 ffa9:m:1105 ffaa:m:11b0 ffab:m:11b1",
     "ffac:m:11b2 ffad:m:11b3 ffae:m:11b4 ffaf:m:11b5 ffb0:m:111a ffb1:m:1106 ffb2:m:1107 ffb3:m:1108",
     "ffb4:m:1121 ffb5:m:1109 ffb6:m:110a ffb7:m:110b ffb8:m:110c ffb9:m:110d ffba:m:110e ffbb:m:110f",
     "ffbc:m:1110 ffbd:m:1111 ffbe:m:1112 ffbf:x ffc2:m:1161 ffc3:m:1162 ffc4:m:1163 ffc5:m:1164",
     "ffc6:m:1165 ffc7:m:1166 ffc8:x ffca:m:1167 ffcb:m:1168 ffcc:m:1169 ffcd:m:116a ffce:m:116b",
     "ffcf:m:116c ffd0:x ffd2:m:116d ffd3:m:116e ffd4:m:116f ffd5:m:1170 ffd6:m:1171 ffd7:m:1172",
     "ffd8:x ffda:m:1173 ffdb:m:1174 ffdc:m:1175 ffdd:x ffe0:m:a2 ffe1:m:a3 ffe2:m:ac ffe3:m:20.304",
     "ffe4:m:a6 ffe5:m:a5 ffe6:m:20a9 ffe7:x ffe8:m:2502 ffe9:m:2190 ffea:m:2191 ffeb:m:2192",
     "ffec:m:2193 ffed:m:25a0 ffee:m:25cb ffef:x 10000:v 1000c:x 1000d:v 10027:x 10028:v 1003b:x",
     "1003c:v 1003e:x 1003f:v 1004e:x 10050:v 1005e:x 10080:v 100fb:x 10100:v 10103:x 10107:v 10134:x",
     "10137:v 1018f:x 10190:v 1019d:x 101a0:v 101a1:x 101d0:v 101fe:x 10280:v 1029d:x 102a0:v 102d1:x",
     "102e0:v 102fc:x 10300:v 10324:x 1032d:v 1034b:x 10350:v 1037b:x 10380:v 1039e:x 1039f:v 103c4:x",
     "103c8:v 103d6:x 10400:m:10428 10401:m:10429 10402:m:1042a 10403:m:1042b 10404:m:1042c",
     "10405:m:1042d 10406:m:1042e 10407:m:1042f 10408:m:10430 10409:m:10431 1040a:m:10432",
     "1040b:m:10433 1040c:m:10434 1040d:m:10435 1040e:m:10436 1040f:m:10437 10410:m:10438",
     "10411:m:10439 10412:m:1043a 10413:m:1043b 10414:m:1043c 10415:m:1043d 10416:m:1043e",
     "10417:m:1043f 10418:m:10440 10419:m:10441 1041a:m:10442 1041b:m:10443 1041c:m:10444",
     "1041d:m:10445 1041e:m:10446 1041f:m:10447 10420:m:10448 10421:m:10449 10422:m:1044a",
     "10423:m:1044b 10424:m:1044c 10425:m:1044d 10426:m:1044e 10427:m:1044f 10428:v 1049e:x 104a0:v",
     "104aa:x 104b0:m:104d8 104b1:m:104d9 104b2:m:104da 104b3:m:104db 104b4:m:104dc 104b5:m:104dd",
     "104b6:m:104de 104b7:m:104df 104b8:m:104e0 104b9:m:104e1 104ba:m:104e2 104bb:m:104e3",
     "104bc:m:104e4 104bd:m:104e5 104be:m:104e6 104bf:m:104e7 104c0:m:104e8 104c1:m:104e9",
     "104c2:m:104ea 104c3:m:104eb 104c4:m:104ec 104c5:m:104ed 104c6:m:104ee 104c7:m:104ef",
     "104c8:m:104f0 104c9:m:104f1 104ca:m:104f2 104cb:m:104f3 104cc:m:104f4 104cd:m:104f5",
     "104ce:m:104f6 104cf:m:104f7 104d0:m:104f8 104d1:m:104f9 104d2:m:104fa 104d3:m:104fb 104d4:x",
     "104d8:v 104fc:x 10500:v 10528:x 10530:v 10564:x 1056f:v 10570:m:10597 10571:m:10598",
     "10572:m:10599 10573:m:1059a 10574:m:1059b 10575:m:1059c 10576:m:1059d 10577:m:1059e",
     "10578:m:1059f 10579:m:105a0 1057a:m:105a1 1057b:x 1057c:m:105a3 1057d:m:105a4 1057e:m:105a5",
     "1057f:m:105a6 10580:m:105a7 10581:m:105a8 10582:m:105a9 10583:m:105aa 10584:m:105ab",
     "10585:m:105ac 10586:m:105ad 10587:m:105ae 10588:m:105af 10589:m:105b0 1058a:m:105b1 1058b:x",
     "1058c:m:105b3 1058d:m:105b4 1058e:m:105b5 1058f:m:105b6 10590:m:105b7 10591:m:105b8",
     "10592:m:105b9 10593:x 10594:m:105bb 10595:m:105bc 10596:x 10597:v 105a2:x 105a3:v 105b2:x",
     "105b3:v 105ba:x 105bb:v 105bd:x 105c0:v 105f4:x 10600:v 10737:x 10740:v 10756:x 10760:v 10768:x",
     "10780:v 10781:m:2d0 10782:m:2d1 10783:m:e6 10784:m:299 10785:m:253 10786:x 10787:m:2a3",
     "10788:m:ab66 10789:m:2a5 1078a:m:2a4 1078b:m:256 1078c:m:257 1078d:m:1d91 1078e:m:258",
     "1078f:m:25e 10790:m:2a9 10791:m:264 10792:m:262 10793:m:260 10794:m:29b 10795:m:127 10796:m:29c",
     "10797:m:267 10798:m:284 10799:m:2aa 1079a:m:2ab 1079b:m:26c 1079c:m:1df04 1079d:m:a78e",
     "1079e:m:26e 1079f:m:1df05 107a0:m:28e 107a1:m:1df06 107a2:m:f8 107a3:m:276 107a4:m:277",
     "107a5:m:71 107a6:m:27a 107a7:m:1df08 107a8:m:27d 107a9:m:27e 107aa:m:280 107ab:m:2a8 107ac:m:2a6",
     "107ad:m:ab67 107ae:m:2a7 107af:m:288 107b0:m:2c71 107b1:x 107b2:m:28f 107b3:m:2a1 107b4:m:2a2",
     "107b5:m:298 107b6:m:1c0 107b7:m:1c1 107b8:m:1c2 107b9:m:1df0a 107ba:m:1df1e 107bb:x 10800:v",
     "10806:x 10808:v 10809:x 1080a:v 10836:x 10837:v 10839:x 1083c:v 1083d:x 1083f:v 10856:x 10857:v",
     "1089f:x 108a7:v 108b0:x 108e0:v 108f3:x 108f4:v 108f6:x 108fb:v 1091c:x 1091f:v 1093a:x 1093f:v",
     "1095a:x 10980:v 109b8:x 109bc:v 109d0:x 109d2:v 10a04:x 10a05:v 10a07:x 10a0c:v 10a14:x 10a15:v",
     "10a18:x 10a19:v 10a36:x 10a38:v 10a3b:x 10a3f:v 10a49:x 10a50:v 10a59:x 10a60:v 10aa0:x 10ac0:v",
     "10ae7:x 10aeb:v 10af7:x 10b00:v 10b36:x 10b39:v 10b56:x 10b58:v 10b73:x 10b78:v 10b92:x 10b99:v",
     "10b9d:x 10ba9:v 10bb0:x 10c00:v 10c49:x 10c80:m:10cc0 10c81:m:10cc1 10c82:m:10cc2 10c83:m:10cc3",
     "10c84:m:10cc4 10c85:m:10cc5 10c86:m:10cc6 10c87:m:10cc7 10c88:m:10cc8 10c89:m:10cc9",
     "10c8a:m:10cca 10c8b:m:10ccb 10c8c:m:10ccc 10c8d:m:10ccd 10c8e:m:10cce 10c8f:m:10ccf",
     "10c90:m:10cd0 10c91:m:10cd1 10c92:m:10cd2 10c93:m:10cd3 10c94:m:10cd4 10c95:m:10cd5",
     "10c96:m:10cd6 10c97:m:10cd7 10c98:m:10cd8 10c99:m:10cd9 10c9a:m:10cda 10c9b:m:10cdb",
     "10c9c:m:10cdc 10c9d:m:10cdd 10c9e:m:10cde 10c9f:m:10cdf 10ca0:m:10ce0 10ca1:m:10ce1",
     "10ca2:m:10ce2 10ca3:m:10ce3 10ca4:m:10ce4 10ca5:m:10ce5 10ca6:m:10ce6 10ca7:m:10ce7",
     "10ca8:m:10ce8 10ca9:m:10ce9 10caa:m:10cea 10cab:m:10ceb 10cac:m:10cec 10cad:m:10ced",
     "10cae:m:10cee 10caf:m:10cef 10cb0:m:10cf0 10cb1:m:10cf1 10cb2:m:10cf2 10cb3:x 10cc0:v 10cf3:x",
     "10cfa:v 10d28:x 10d30:v 10d3a:x 10d40:v 10d50:m:10d70 10d51:m:10d71 10d52:m:10d72 10d53:m:10d73",
     "10d54:m:10d74 10d55:m:10d75 10d56:m:10d76 10d57:m:10d77 10d58:m:10d78 10d59:m:10d79",
     "10d5a:m:10d7a 10d5b:m:10d7b 10d5c:m:10d7c 10d5d:m:10d7d 10d5e:m:10d7e 10d5f:m:10d7f",
     "10d60:m:10d80 10d61:m:10d81 10d62:m:10d82 10d63:m:10d83 10d64:m:10d84 10d65:m:10d85 10d66:x",
     "10d69:v 10d86:x 10d8e:v 10d90:x 10e60:v 10e7f:x 10e80:v 10eaa:x 10eab:v 10eae:x 10eb0:v 10eb2:x",
     "10ec2:v 10ec8:x 10ed0:v 10ed9:x 10efa:v 10f28:x 10f30:v 10f5a:x 10f70:v 10f8a:x 10fb0:v 10fcc:x",
     "10fe0:v 10ff7:x 11000:v 1104e:x 11052:v 11076:x 1107f:v 110bd:x 110be:v 110c3:x 110d0:v 110e9:x",
     "110f0:v 110fa:x 11100:v 11135:x 11136:v 11148:x 11150:v 11177:x 11180:v 111e0:x 111e1:v 111f5:x",
     "11200:v 11212:x 11213:v 11242:x 11280:v 11287:x 11288:v 11289:x 1128a:v 1128e:x 1128f:v 1129e:x",
     "1129f:v 112aa:x 112b0:v 112eb:x 112f0:v 112fa:x 11300:v 11304:x 11305:v 1130d:x 1130f:v 11311:x",
     "11313:v 11329:x 1132a:v 11331:x 11332:v 11334:x 11335:v 1133a:x 1133b:v 11345:x 11347:v 11349:x",
     "1134b:v 1134e:x 11350:v 11351:x 11357:v 11358:x 1135d:v 11364:x 11366:v 1136d:x 11370:v 11375:x",
     "11380:v 1138a:x 1138b:v 1138c:x 1138e:v 1138f:x 11390:v 113b6:x 113b7:v 113c1:x 113c2:v 113c3:x",
     "113c5:v 113c6:x 113c7:v 113cb:x 113cc:v 113d6:x 113d7:v 113d9:x 113e1:v 113e3:x 11400:v 1145c:x",
     "1145d:v 11462:x 11480:v 114c8:x 114d0:v 114da:x 11580:v 115b6:x 115b8:v 115de:x 11600:v 11645:x",
     "11650:v 1165a:x 11660:v 1166d:x 11680:v 116ba:x 116c0:v 116ca:x 116d0:v 116e4:x 11700:v 1171b:x",
     "1171d:v 1172c:x 11730:v 11747:x 11800:v 1183c:x 118a0:m:118c0 118a1:m:118c1 118a2:m:118c2",
     "118a3:m:118c3 118a4:m:118c4 118a5:m:118c5 118a6:m:118c6 118a7:m:118c7 118a8:m:118c8",
     "118a9:m:118c9 118aa:m:118ca 118ab:m:118cb 118ac:m:118cc 118ad:m:118cd 118ae:m:118ce",
     "118af:m:118cf 118b0:m:118d0 118b1:m:118d1 118b2:m:118d2 118b3:m:118d3 118b4:m:118d4",
     "118b5:m:118d5 118b6:m:118d6 118b7:m:118d7 118b8:m:118d8 118b9:m:118d9 118ba:m:118da",
     "118bb:m:118db 118bc:m:118dc 118bd:m:118dd 118be:m:118de 118bf:m:118df 118c0:v 118f3:x 118ff:v",
     "11907:x 11909:v 1190a:x 1190c:v 11914:x 11915:v 11917:x 11918:v 11936:x 11937:v 11939:x 1193b:v",
     "11947:x 11950:v 1195a:x 119a0:v 119a8:x 119aa:v 119d8:x 119da:v 119e5:x 11a00:v 11a48:x 11a50:v",
     "11aa3:x 11ab0:v 11af9:x 11b00:v 11b0a:x 11b60:v 11b68:x 11bc0:v 11be2:x 11bf0:v 11bfa:x 11c00:v",
     "11c09:x 11c0a:v 11c37:x 11c38:v 11c46:x 11c50:v 11c6d:x 11c70:v 11c90:x 11c92:v 11ca8:x 11ca9:v",
     "11cb7:x 11d00:v 11d07:x 11d08:v 11d0a:x 11d0b:v 11d37:x 11d3a:v 11d3b:x 11d3c:v 11d3e:x 11d3f:v",
     "11d48:x 11d50:v 11d5a:x 11d60:v 11d66:x 11d67:v 11d69:x 11d6a:v 11d8f:x 11d90:v 11d92:x 11d93:v",
     "11d99:x 11da0:v 11daa:x 11db0:v 11ddc:x 11de0:v 11dea:x 11ee0:v 11ef9:x 11f00:v 11f11:x 11f12:v",
     "11f3b:x 11f3e:v 11f5b:x 11fb0:v 11fb1:x 11fc0:v 11ff2:x 11fff:v 1239a:x 12400:v 1246f:x 12470:v",
     "12475:x 12480:v 12544:x 12f90:v 12ff3:x 13000:v 13430:x 13440:v 13456:x 13460:v 143fb:x 14400:v",
     "14647:x 16100:v 1613a:x 16800:v 16a39:x 16a40:v 16a5f:x 16a60:v 16a6a:x 16a6e:v 16abf:x 16ac0:v",
     "16aca:x 16ad0:v 16aee:x 16af0:v 16af6:x 16b00:v 16b46:x 16b50:v 16b5a:x 16b5b:v 16b62:x 16b63:v",
     "16b78:x 16b7d:v 16b90:x 16d40:v 16d7a:x 16e40:m:16e60 16e41:m:16e61 16e42:m:16e62 16e43:m:16e63",
     "16e44:m:16e64 16e45:m:16e65 16e46:m:16e66 16e47:m:16e67 16e48:m:16e68 16e49:m:16e69",
     "16e4a:m:16e6a 16e4b:m:16e6b 16e4c:m:16e6c 16e4d:m:16e6d 16e4e:m:16e6e 16e4f:m:16e6f",
     "16e50:m:16e70 16e51:m:16e71 16e52:m:16e72 16e53:m:16e73 16e54:m:16e74 16e55:m:16e75",
     "16e56:m:16e76 16e57:m:16e77 16e58:m:16e78 16e59:m:16e79 16e5a:m:16e7a 16e5b:m:16e7b",
     "16e5c:m:16e7c 16e5d:m:16e7d 16e5e:m:16e7e 16e5f:m:16e7f 16e60:v 16e9b:x 16ea0:m:16ebb",
     "16ea1:m:16ebc 16ea2:m:16ebd 16ea3:m:16ebe 16ea4:m:16ebf 16ea5:m:16ec0 16ea6:m:16ec1",
     "16ea7:m:16ec2 16ea8:m:16ec3 16ea9:m:16ec4 16eaa:m:16ec5 16eab:m:16ec6 16eac:m:16ec7",
     "16ead:m:16ec8 16eae:m:16ec9 16eaf:m:16eca 16eb0:m:16ecb 16eb1:m:16ecc 16eb2:m:16ecd",
     "16eb3:m:16ece 16eb4:m:16ecf 16eb5:m:16ed0 16eb6:m:16ed1 16eb7:m:16ed2 16eb8:m:16ed3 16eb9:x",
     "16ebb:v 16ed4:x 16f00:v 16f4b:x 16f4f:v 16f88:x 16f8f:v 16fa0:x 16fe0:v 16fe5:x 16ff0:v 16ff7:x",
     "17000:v 18cd6:x 18cff:v 18d1f:x 18d80:v 18df3:x 1aff0:v 1aff4:x 1aff5:v 1affc:x 1affd:v 1afff:x",
     "1b000:v 1b123:x 1b132:v 1b133:x 1b150:v 1b153:x 1b155:v 1b156:x 1b164:v 1b168:x 1b170:v 1b2fc:x",
     "1bc00:v 1bc6b:x 1bc70:v 1bc7d:x 1bc80:v 1bc89:x 1bc90:v 1bc9a:x 1bc9c:v 1bca0:i 1bca4:x 1cc00:v",
     "1ccd6:m:61 1ccd7:m:62 1ccd8:m:63 1ccd9:m:64 1ccda:m:65 1ccdb:m:66 1ccdc:m:67 1ccdd:m:68",
     "1ccde:m:69 1ccdf:m:6a 1cce0:m:6b 1cce1:m:6c 1cce2:m:6d 1cce3:m:6e 1cce4:m:6f 1cce5:m:70",
     "1cce6:m:71 1cce7:m:72 1cce8:m:73 1cce9:m:74 1ccea:m:75 1cceb:m:76 1ccec:m:77 1cced:m:78",
     "1ccee:m:79 1ccef:m:7a 1ccf0:m:30 1ccf1:m:31 1ccf2:m:32 1ccf3:m:33 1ccf4:m:34 1ccf5:m:35",
     "1ccf6:m:36 1ccf7:m:37 1ccf8:m:38 1ccf9:m:39 1ccfa:v 1ccfd:x 1cd00:v 1ceb4:x 1ceba:v 1ced1:x",
     "1cee0:v 1cef1:x 1cf00:v 1cf2e:x 1cf30:v 1cf47:x 1cf50:v 1cfc4:x 1d000:v 1d0f6:x 1d100:v 1d127:x",
     "1d129:v 1d15e:m:1d157.1d165 1d15f:m:1d158.1d165 1d160:m:1d158.1d165.1d16e",
     "1d161:m:1d158.1d165.1d16f 1d162:m:1d158.1d165.1d170 1d163:m:1d158.1d165.1d171",
     "1d164:m:1d158.1d165.1d172 1d165:v 1d173:i 1d17b:v 1d1bb:m:1d1b9.1d165 1d1bc:m:1d1ba.1d165",
     "1d1bd:m:1d1b9.1d165.1d16e 1d1be:m:1d1ba.1d165.1d16e 1d1bf:m:1d1b9.1d165.1d16f",
     "1d1c0:m:1d1ba.1d165.1d16f 1d1c1:v 1d1eb:x 1d200:v 1d246:x 1d2c0:v 1d2d4:x 1d2e0:v 1d2f4:x",
     "1d300:v 1d357:x 1d360:v 1d379:x 1d400:m:61 1d401:m:62 1d402:m:63 1d403:m:64 1d404:m:65",
     "1d405:m:66 1d406:m:67 1d407:m:68 1d408:m:69 1d409:m:6a 1d40a:m:6b 1d40b:m:6c 1d40c:m:6d",
     "1d40d:m:6e 1d40e:m:6f 1d40f:m:70 1d410:m:71 1d411:m:72 1d412:m:73 1d413:m:74 1d414:m:75",
     "1d415:m:76 1d416:m:77 1d417:m:78 1d418:m:79 1d419:m:7a 1d41a:m:61 1d41b:m:62 1d41c:m:63",
     "1d41d:m:64 1d41e:m:65 1d41f:m:66 1d420:m:67 1d421:m:68 1d422:m:69 1d423:m:6a 1d424:m:6b",
     "1d425:m:6c 1d426:m:6d 1d427:m:6e 1d428:m:6f 1d429:m:70 1d42a:m:71 1d42b:m:72 1d42c:m:73",
     "1d42d:m:74 1d42e:m:75 1d42f:m:76 1d430:m:77 1d431:m:78 1d432:m:79 1d433:m:7a 1d434:m:61",
     "1d435:m:62 1d436:m:63 1d437:m:64 1d438:m:65 1d439:m:66 1d43a:m:67 1d43b:m:68 1d43c:m:69",
     "1d43d:m:6a 1d43e:m:6b 1d43f:m:6c 1d440:m:6d 1d441:m:6e 1d442:m:6f 1d443:m:70 1d444:m:71",
     "1d445:m:72 1d446:m:73 1d447:m:74 1d448:m:75 1d449:m:76 1d44a:m:77 1d44b:m:78 1d44c:m:79",
     "1d44d:m:7a 1d44e:m:61 1d44f:m:62 1d450:m:63 1d451:m:64 1d452:m:65 1d453:m:66 1d454:m:67 1d455:x",
     "1d456:m:69 1d457:m:6a 1d458:m:6b 1d459:m:6c 1d45a:m:6d 1d45b:m:6e 1d45c:m:6f 1d45d:m:70",
     "1d45e:m:71 1d45f:m:72 1d460:m:73 1d461:m:74 1d462:m:75 1d463:m:76 1d464:m:77 1d465:m:78",
     "1d466:m:79 1d467:m:7a 1d468:m:61 1d469:m:62 1d46a:m:63 1d46b:m:64 1d46c:m:65 1d46d:m:66",
     "1d46e:m:67 1d46f:m:68 1d470:m:69 1d471:m:6a 1d472:m:6b 1d473:m:6c 1d474:m:6d 1d475:m:6e",
     "1d476:m:6f 1d477:m:70 1d478:m:71 1d479:m:72 1d47a:m:73 1d47b:m:74 1d47c:m:75 1d47d:m:76",
     "1d47e:m:77 1d47f:m:78 1d480:m:79 1d481:m:7a 1d482:m:61 1d483:m:62 1d484:m:63 1d485:m:64",
     "1d486:m:65 1d487:m:66 1d488:m:67 1d489:m:68 1d48a:m:69 1d48b:m:6a 1d48c:m:6b 1d48d:m:6c",
     "1d48e:m:6d 1d48f:m:6e 1d490:m:6f 1d491:m:70 1d492:m:71 1d493:m:72 1d494:m:73 1d495:m:74",
     "1d496:m:75 1d497:m:76 1d498:m:77 1d499:m:78 1d49a:m:79 1d49b:m:7a 1d49c:m:61 1d49d:x 1d49e:m:63",
     "1d49f:m:64 1d4a0:x 1d4a2:m:67 1d4a3:x 1d4a5:m:6a 1d4a6:m:6b 1d4a7:x 1d4a9:m:6e 1d4aa:m:6f",
     "1d4ab:m:70 1d4ac:m:71 1d4ad:x 1d4ae:m:73 1d4af:m:74 1d4b0:m:75 1d4b1:m:76 1d4b2:m:77 1d4b3:m:78",
     "1d4b4:m:79 1d4b5:m:7a 1d4b6:m:61 1d4b7:m:62 1d4b8:m:63 1d4b9:m:64 1d4ba:x 1d4bb:m:66 1d4bc:x",
     "1d4bd:m:68 1d4be:m:69 1d4bf:m:6a 1d4c0:m:6b 1d4c1:m:6c 1d4c2:m:6d 1d4c3:m:6e 1d4c4:x 1d4c5:m:70",
     "1d4c6:m:71 1d4c7:m:72 1d4c8:m:73 1d4c9:m:74 1d4ca:m:75 1d4cb:m:76 1d4cc:m:77 1d4cd:m:78",
     "1d4ce:m:79 1d4cf:m:7a 1d4d0:m:61 1d4d1:m:62 1d4d2:m:63 1d4d3:m:64 1d4d4:m:65 1d4d5:m:66",
     "1d4d6:m:67 1d4d7:m:68 1d4d8:m:69 1d4d9:m:6a 1d4da:m:6b 1d4db:m:6c 1d4dc:m:6d 1d4dd:m:6e",
     "1d4de:m:6f 1d4df:m:70 1d4e0:m:71 1d4e1:m:72 1d4e2:m:73 1d4e3:m:74 1d4e4:m:75 1d4e5:m:76",
     "1d4e6:m:77 1d4e7:m:78 1d4e8:m:79 1d4e9:m:7a 1d4ea:m:61 1d4eb:m:62 1d4ec:m:63 1d4ed:m:64",
     "1d4ee:m:65 1d4ef:m:66 1d4f0:m:67 1d4f1:m:68 1d4f2:m:69 1d4f3:m:6a 1d4f4:m:6b 1d4f5:m:6c",
     "1d4f6:m:6d 1d4f7:m:6e 1d4f8:m:6f 1d4f9:m:70 1d4fa:m:71 1d4fb:m:72 1d4fc:m:73 1d4fd:m:74",
     "1d4fe:m:75 1d4ff:m:76 1d500:m:77 1d501:m:78 1d502:m:79 1d503:m:7a 1d504:m:61 1d505:m:62 1d506:x",
     "1d507:m:64 1d508:m:65 1d509:m:66 1d50a:m:67 1d50b:x 1d50d:m:6a 1d50e:m:6b 1d50f:m:6c 1d510:m:6d",
     "1d511:m:6e 1d512:m:6f 1d513:m:70 1d514:m:71 1d515:x 1d516:m:73 1d517:m:74 1d518:m:75 1d519:m:76",
     "1d51a:m:77 1d51b:m:78 1d51c:m:79 1d51d:x 1d51e:m:61 1d51f:m:62 1d520:m:63 1d521:m:64 1d522:m:65",
     "1d523:m:66 1d524:m:67 1d525:m:68 1d526:m:69 1d527:m:6a 1d528:m:6b 1d529:m:6c 1d52a:m:6d",
     "1d52b:m:6e 1d52c:m:6f 1d52d:m:70 1d52e:m:71 1d52f:m:72 1d530:m:73 1d531:m:74 1d532:m:75",
     "1d533:m:76 1d534:m:77 1d535:m:78 1d536:m:79 1d537:m:7a 1d538:m:61 1d539:m:62 1d53a:x 1d53b:m:64",
     "1d53c:m:65 1d53d:m:66 1d53e:m:67 1d53f:x 1d540:m:69 1d541:m:6a 1d542:m:6b 1d543:m:6c 1d544:m:6d",
     "1d545:x 1d546:m:6f 1d547:x 1d54a:m:73 1d54b:m:74 1d54c:m:75 1d54d:m:76 1d54e:m:77 1d54f:m:78",
     "1d550:m:79 1d551:x 1d552:m:61 1d553:m:62 1d554:m:63 1d555:m:64 1d556:m:65 1d557:m:66 1d558:m:67",
     "1d559:m:68 1d55a:m:69 1d55b:m:6a 1d55c:m:6b 1d55d:m:6c 1d55e:m:6d 1d55f:m:6e 1d560:m:6f",
     "1d561:m:70 1d562:m:71 1d563:m:72 1d564:m:73 1d565:m:74 1d566:m:75 1d567:m:76 1d568:m:77",
     "1d569:m:78 1d56a:m:79 1d56b:m:7a 1d56c:m:61 1d56d:m:62 1d56e:m:63 1d56f:m:64 1d570:m:65",
     "1d571:m:66 1d572:m:67 1d573:m:68 1d574:m:69 1d575:m:6a 1d576:m:6b 1d577:m:6c 1d578:m:6d",
     "1d579:m:6e 1d57a:m:6f 1d57b:m:70 1d57c:m:71 1d57d:m:72 1d57e:m:73 1d57f:m:74 1d580:m:75",
     "1d581:m:76 1d582:m:77 1d583:m:78 1d584:m:79 1d585:m:7a 1d586:m:61 1d587:m:62 1d588:m:63",
     "1d589:m:64 1d58a:m:65 1d58b:m:66 1d58c:m:67 1d58d:m:68 1d58e:m:69 1d58f:m:6a 1d590:m:6b",
     "1d591:m:6c 1d592:m:6d 1d593:m:6e 1d594:m:6f 1d595:m:70 1d596:m:71 1d597:m:72 1d598:m:73",
     "1d599:m:74 1d59a:m:75 1d59b:m:76 1d59c:m:77 1d59d:m:78 1d59e:m:79 1d59f:m:7a 1d5a0:m:61",
     "1d5a1:m:62 1d5a2:m:63 1d5a3:m:64 1d5a4:m:65 1d5a5:m:66 1d5a6:m:67 1d5a7:m:68 1d5a8:m:69",
     "1d5a9:m:6a 1d5aa:m:6b 1d5ab:m:6c 1d5ac:m:6d 1d5ad:m:6e 1d5ae:m:6f 1d5af:m:70 1d5b0:m:71",
     "1d5b1:m:72 1d5b2:m:73 1d5b3:m:74 1d5b4:m:75 1d5b5:m:76 1d5b6:m:77 1d5b7:m:78 1d5b8:m:79",
     "1d5b9:m:7a 1d5ba:m:61 1d5bb:m:62 1d5bc:m:63 1d5bd:m:64 1d5be:m:65 1d5bf:m:66 1d5c0:m:67",
     "1d5c1:m:68 1d5c2:m:69 1d5c3:m:6a 1d5c4:m:6b 1d5c5:m:6c 1d5c6:m:6d 1d5c7:m:6e 1d5c8:m:6f",
     "1d5c9:m:70 1d5ca:m:71 1d5cb:m:72 1d5cc:m:73 1d5cd:m:74 1d5ce:m:75 1d5cf:m:76 1d5d0:m:77",
     "1d5d1:m:78 1d5d2:m:79 1d5d3:m:7a 1d5d4:m:61 1d5d5:m:62 1d5d6:m:63 1d5d7:m:64 1d5d8:m:65",
     "1d5d9:m:66 1d5da:m:67 1d5db:m:68 1d5dc:m:69 1d5dd:m:6a 1d5de:m:6b 1d5df:m:6c 1d5e0:m:6d",
     "1d5e1:m:6e 1d5e2:m:6f 1d5e3:m:70 1d5e4:m:71 1d5e5:m:72 1d5e6:m:73 1d5e7:m:74 1d5e8:m:75",
     "1d5e9:m:76 1d5ea:m:77 1d5eb:m:78 1d5ec:m:79 1d5ed:m:7a 1d5ee:m:61 1d5ef:m:62 1d5f0:m:63",
     "1d5f1:m:64 1d5f2:m:65 1d5f3:m:66 1d5f4:m:67 1d5f5:m:68 1d5f6:m:69 1d5f7:m:6a 1d5f8:m:6b",
     "1d5f9:m:6c 1d5fa:m:6d 1d5fb:m:6e 1d5fc:m:6f 1d5fd:m:70 1d5fe:m:71 1d5ff:m:72 1d600:m:73",
     "1d601:m:74 1d602:m:75 1d603:m:76 1d604:m:77 1d605:m:78 1d606:m:79 1d607:m:7a 1d608:m:61",
     "1d609:m:62 1d60a:m:63 1d60b:m:64 1d60c:m:65 1d60d:m:66 1d60e:m:67 1d60f:m:68 1d610:m:69",
     "1d611:m:6a 1d612:m:6b 1d613:m:6c 1d614:m:6d 1d615:m:6e 1d616:m:6f 1d617:m:70 1d618:m:71",
     "1d619:m:72 1d61a:m:73 1d61b:m:74 1d61c:m:75 1d61d:m:76 1d61e:m:77 1d61f:m:78 1d620:m:79",
     "1d621:m:7a 1d622:m:61 1d623:m:62 1d624:m:63 1d625:m:64 1d626:m:65 1d627:m:66 1d628:m:67",
     "1d629:m:68 1d62a:m:69 1d62b:m:6a 1d62c:m:6b 1d62d:m:6c 1d62e:m:6d 1d62f:m:6e 1d630:m:6f",
     "1d631:m:70 1d632:m:71 1d633:m:72 1d634:m:73 1d635:m:74 1d636:m:75 1d637:m:76 1d638:m:77",
     "1d639:m:78 1d63a:m:79 1d63b:m:7a 1d63c:m:61 1d63d:m:62 1d63e:m:63 1d63f:m:64 1d640:m:65",
     "1d641:m:66 1d642:m:67 1d643:m:68 1d644:m:69 1d645:m:6a 1d646:m:6b 1d647:m:6c 1d648:m:6d",
     "1d649:m:6e 1d64a:m:6f 1d64b:m:70 1d64c:m:71 1d64d:m:72 1d64e:m:73 1d64f:m:74 1d650:m:75",
     "1d651:m:76 1d652:m:77 1d653:m:78 1d654:m:79 1d655:m:7a 1d656:m:61 1d657:m:62 1d658:m:63",
     "1d659:m:64 1d65a:m:65 1d65b:m:66 1d65c:m:67 1d65d:m:68 1d65e:m:69 1d65f:m:6a 1d660:m:6b",
     "1d661:m:6c 1d662:m:6d 1d663:m:6e 1d664:m:6f 1d665:m:70 1d666:m:71 1d667:m:72 1d668:m:73",
     "1d669:m:74 1d66a:m:75 1d66b:m:76 1d66c:m:77 1d66d:m:78 1d66e:m:79 1d66f:m:7a 1d670:m:61",
     "1d671:m:62 1d672:m:63 1d673:m:64 1d674:m:65 1d675:m:66 1d676:m:67 1d677:m:68 1d678:m:69",
     "1d679:m:6a 1d67a:m:6b 1d67b:m:6c 1d67c:m:6d 1d67d:m:6e 1d67e:m:6f 1d67f:m:70 1d680:m:71",
     "1d681:m:72 1d682:m:73 1d683:m:74 1d684:m:75 1d685:m:76 1d686:m:77 1d687:m:78 1d688:m:79",
     "1d689:m:7a 1d68a:m:61 1d68b:m:62 1d68c:m:63 1d68d:m:64 1d68e:m:65 1d68f:m:66 1d690:m:67",
     "1d691:m:68 1d692:m:69 1d693:m:6a 1d694:m:6b 1d695:m:6c 1d696:m:6d 1d697:m:6e 1d698:m:6f",
     "1d699:m:70 1d69a:m:71 1d69b:m:72 1d69c:m:73 1d69d:m:74 1d69e:m:75 1d69f:m:76 1d6a0:m:77",
     "1d6a1:m:78 1d6a2:m:79 1d6a3:m:7a 1d6a4:m:131 1d6a5:m:237 1d6a6:x 1d6a8:m:3b1 1d6a9:m:3b2",
     "1d6aa:m:3b3 1d6ab:m:3b4 1d6ac:m:3b5 1d6ad:m:3b6 1d6ae:m:3b7 1d6af:m:3b8 1d6b0:m:3b9 1d6b1:m:3ba",
     "1d6b2:m:3bb 1d6b3:m:3bc 1d6b4:m:3bd 1d6b5:m:3be 1d6b6:m:3bf 1d6b7:m:3c0 1d6b8:m:3c1 1d6b9:m:3b8",
     "1d6ba:m:3c3 1d6bb:m:3c4 1d6bc:m:3c5 1d6bd:m:3c6 1d6be:m:3c7 1d6bf:m:3c8 1d6c0:m:3c9 1d6c1:m:2207",
     "1d6c2:m:3b1 1d6c3:m:3b2 1d6c4:m:3b3 1d6c5:m:3b4 1d6c6:m:3b5 1d6c7:m:3b6 1d6c8:m:3b7 1d6c9:m:3b8",
     "1d6ca:m:3b9 1d6cb:m:3ba 1d6cc:m:3bb 1d6cd:m:3bc 1d6ce:m:3bd 1d6cf:m:3be 1d6d0:m:3bf 1d6d1:m:3c0",
     "1d6d2:m:3c1 1d6d3:m:3c3 1d6d5:m:3c4 1d6d6:m:3c5 1d6d7:m:3c6 1d6d8:m:3c7 1d6d9:m:3c8 1d6da:m:3c9",
     "1d6db:m:2202 1d6dc:m:3b5 1d6dd:m:3b8 1d6de:m:3ba 1d6df:m:3c6 1d6e0:m:3c1 1d6e1:m:3c0 1d6e2:m:3b1",
     "1d6e3:m:3b2 1d6e4:m:3b3 1d6e5:m:3b4 1d6e6:m:3b5 1d6e7:m:3b6 1d6e8:m:3b7 1d6e9:m:3b8 1d6ea:m:3b9",
     "1d6eb:m:3ba 1d6ec:m:3bb 1d6ed:m:3bc 1d6ee:m:3bd 1d6ef:m:3be 1d6f0:m:3bf 1d6f1:m:3c0 1d6f2:m:3c1",
     "1d6f3:m:3b8 1d6f4:m:3c3 1d6f5:m:3c4 1d6f6:m:3c5 1d6f7:m:3c6 1d6f8:m:3c7 1d6f9:m:3c8 1d6fa:m:3c9",
     "1d6fb:m:2207 1d6fc:m:3b1 1d6fd:m:3b2 1d6fe:m:3b3 1d6ff:m:3b4 1d700:m:3b5 1d701:m:3b6 1d702:m:3b7",
     "1d703:m:3b8 1d704:m:3b9 1d705:m:3ba 1d706:m:3bb 1d707:m:3bc 1d708:m:3bd 1d709:m:3be 1d70a:m:3bf",
     "1d70b:m:3c0 1d70c:m:3c1 1d70d:m:3c3 1d70f:m:3c4 1d710:m:3c5 1d711:m:3c6 1d712:m:3c7 1d713:m:3c8",
     "1d714:m:3c9 1d715:m:2202 1d716:m:3b5 1d717:m:3b8 1d718:m:3ba 1d719:m:3c6 1d71a:m:3c1 1d71b:m:3c0",
     "1d71c:m:3b1 1d71d:m:3b2 1d71e:m:3b3 1d71f:m:3b4 1d720:m:3b5 1d721:m:3b6 1d722:m:3b7 1d723:m:3b8",
     "1d724:m:3b9 1d725:m:3ba 1d726:m:3bb 1d727:m:3bc 1d728:m:3bd 1d729:m:3be 1d72a:m:3bf 1d72b:m:3c0",
     "1d72c:m:3c1 1d72d:m:3b8 1d72e:m:3c3 1d72f:m:3c4 1d730:m:3c5 1d731:m:3c6 1d732:m:3c7 1d733:m:3c8",
     "1d734:m:3c9 1d735:m:2207 1d736:m:3b1 1d737:m:3b2 1d738:m:3b3 1d739:m:3b4 1d73a:m:3b5 1d73b:m:3b6",
     "1d73c:m:3b7 1d73d:m:3b8 1d73e:m:3b9 1d73f:m:3ba 1d740:m:3bb 1d741:m:3bc 1d742:m:3bd 1d743:m:3be",
     "1d744:m:3bf 1d745:m:3c0 1d746:m:3c1 1d747:m:3c3 1d749:m:3c4 1d74a:m:3c5 1d74b:m:3c6 1d74c:m:3c7",
     "1d74d:m:3c8 1d74e:m:3c9 1d74f:m:2202 1d750:m:3b5 1d751:m:3b8 1d752:m:3ba 1d753:m:3c6 1d754:m:3c1",
     "1d755:m:3c0 1d756:m:3b1 1d757:m:3b2 1d758:m:3b3 1d759:m:3b4 1d75a:m:3b5 1d75b:m:3b6 1d75c:m:3b7",
     "1d75d:m:3b8 1d75e:m:3b9 1d75f:m:3ba 1d760:m:3bb 1d761:m:3bc 1d762:m:3bd 1d763:m:3be 1d764:m:3bf",
     "1d765:m:3c0 1d766:m:3c1 1d767:m:3b8 1d768:m:3c3 1d769:m:3c4 1d76a:m:3c5 1d76b:m:3c6 1d76c:m:3c7",
     "1d76d:m:3c8 1d76e:m:3c9 1d76f:m:2207 1d770:m:3b1 1d771:m:3b2 1d772:m:3b3 1d773:m:3b4 1d774:m:3b5",
     "1d775:m:3b6 1d776:m:3b7 1d777:m:3b8 1d778:m:3b9 1d779:m:3ba 1d77a:m:3bb 1d77b:m:3bc 1d77c:m:3bd",
     "1d77d:m:3be 1d77e:m:3bf 1d77f:m:3c0 1d780:m:3c1 1d781:m:3c3 1d783:m:3c4 1d784:m:3c5 1d785:m:3c6",
     "1d786:m:3c7 1d787:m:3c8 1d788:m:3c9 1d789:m:2202 1d78a:m:3b5 1d78b:m:3b8 1d78c:m:3ba 1d78d:m:3c6",
     "1d78e:m:3c1 1d78f:m:3c0 1d790:m:3b1 1d791:m:3b2 1d792:m:3b3 1d793:m:3b4 1d794:m:3b5 1d795:m:3b6",
     "1d796:m:3b7 1d797:m:3b8 1d798:m:3b9 1d799:m:3ba 1d79a:m:3bb 1d79b:m:3bc 1d79c:m:3bd 1d79d:m:3be",
     "1d79e:m:3bf 1d79f:m:3c0 1d7a0:m:3c1 1d7a1:m:3b8 1d7a2:m:3c3 1d7a3:m:3c4 1d7a4:m:3c5 1d7a5:m:3c6",
     "1d7a6:m:3c7 1d7a7:m:3c8 1d7a8:m:3c9 1d7a9:m:2207 1d7aa:m:3b1 1d7ab:m:3b2 1d7ac:m:3b3 1d7ad:m:3b4",
     "1d7ae:m:3b5 1d7af:m:3b6 1d7b0:m:3b7 1d7b1:m:3b8 1d7b2:m:3b9 1d7b3:m:3ba 1d7b4:m:3bb 1d7b5:m:3bc",
     "1d7b6:m:3bd 1d7b7:m:3be 1d7b8:m:3bf 1d7b9:m:3c0 1d7ba:m:3c1 1d7bb:m:3c3 1d7bd:m:3c4 1d7be:m:3c5",
     "1d7bf:m:3c6 1d7c0:m:3c7 1d7c1:m:3c8 1d7c2:m:3c9 1d7c3:m:2202 1d7c4:m:3b5 1d7c5:m:3b8 1d7c6:m:3ba",
     "1d7c7:m:3c6 1d7c8:m:3c1 1d7c9:m:3c0 1d7ca:m:3dd 1d7cc:x 1d7ce:m:30 1d7cf:m:31 1d7d0:m:32",
     "1d7d1:m:33 1d7d2:m:34 1d7d3:m:35 1d7d4:m:36 1d7d5:m:37 1d7d6:m:38 1d7d7:m:39 1d7d8:m:30",
     "1d7d9:m:31 1d7da:m:32 1d7db:m:33 1d7dc:m:34 1d7dd:m:35 1d7de:m:36 1d7df:m:37 1d7e0:m:38",
     "1d7e1:m:39 1d7e2:m:30 1d7e3:m:31 1d7e4:m:32 1d7e5:m:33 1d7e6:m:34 1d7e7:m:35 1d7e8:m:36",
     "1d7e9:m:37 1d7ea:m:38 1d7eb:m:39 1d7ec:m:30 1d7ed:m:31 1d7ee:m:32 1d7ef:m:33 1d7f0:m:34",
     "1d7f1:m:35 1d7f2:m:36 1d7f3:m:37 1d7f4:m:38 1d7f5:m:39 1d7f6:m:30 1d7f7:m:31 1d7f8:m:32",
     "1d7f9:m:33 1d7fa:m:34 1d7fb:m:35 1d7fc:m:36 1d7fd:m:37 1d7fe:m:38 1d7ff:m:39 1d800:v 1da8c:x",
     "1da9b:v 1daa0:x 1daa1:v 1dab0:x 1df00:v 1df1f:x 1df25:v 1df2b:x 1e000:v 1e007:x 1e008:v 1e019:x",
     "1e01b:v 1e022:x 1e023:v 1e025:x 1e026:v 1e02b:x 1e030:m:430 1e031:m:431 1e032:m:432 1e033:m:433",
     "1e034:m:434 1e035:m:435 1e036:m:436 1e037:m:437 1e038:m:438 1e039:m:43a 1e03a:m:43b 1e03b:m:43c",
     "1e03c:m:43e 1e03d:m:43f 1e03e:m:440 1e03f:m:441 1e040:m:442 1e041:m:443 1e042:m:444 1e043:m:445",
     "1e044:m:446 1e045:m:447 1e046:m:448 1e047:m:44b 1e048:m:44d 1e049:m:44e 1e04a:m:a689 1e04b:m:4d9",
     "1e04c:m:456 1e04d:m:458 1e04e:m:4e9 1e04f:m:4af 1e050:m:4cf 1e051:m:430 1e052:m:431 1e053:m:432",
     "1e054:m:433 1e055:m:434 1e056:m:435 1e057:m:436 1e058:m:437 1e059:m:438 1e05a:m:43a 1e05b:m:43b",
     "1e05c:m:43e 1e05d:m:43f 1e05e:m:441 1e05f:m:443 1e060:m:444 1e061:m:445 1e062:m:446 1e063:m:447",
     "1e064:m:448 1e065:m:44a 1e066:m:44b 1e067:m:491 1e068:m:456 1e069:m:455 1e06a:m:45f 1e06b:m:4ab",
     "1e06c:m:a651 1e06d:m:4b1 1e06e:x 1e08f:v 1e090:x 1e100:v 1e12d:x 1e130:v 1e13e:x 1e140:v 1e14a:x",
     "1e14e:v 1e150:x 1e290:v 1e2af:x 1e2c0:v 1e2fa:x 1e2ff:v 1e300:x 1e4d0:v 1e4fa:x 1e5d0:v 1e5fb:x",
     "1e5ff:v 1e600:x 1e6c0:v 1e6df:x 1e6e0:v 1e6f6:x 1e6fe:v 1e700:x 1e7e0:v 1e7e7:x 1e7e8:v 1e7ec:x",
     "1e7ed:v 1e7ef:x 1e7f0:v 1e7ff:x 1e800:v 1e8c5:x 1e8c7:v 1e8d7:x 1e900:m:1e922 1e901:m:1e923",
     "1e902:m:1e924 1e903:m:1e925 1e904:m:1e926 1e905:m:1e927 1e906:m:1e928 1e907:m:1e929",
     "1e908:m:1e92a 1e909:m:1e92b 1e90a:m:1e92c 1e90b:m:1e92d 1e90c:m:1e92e 1e90d:m:1e92f",
     "1e90e:m:1e930 1e90f:m:1e931 1e910:m:1e932 1e911:m:1e933 1e912:m:1e934 1e913:m:1e935",
     "1e914:m:1e936 1e915:m:1e937 1e916:m:1e938 1e917:m:1e939 1e918:m:1e93a 1e919:m:1e93b",
     "1e91a:m:1e93c 1e91b:m:1e93d 1e91c:m:1e93e 1e91d:m:1e93f 1e91e:m:1e940 1e91f:m:1e941",
     "1e920:m:1e942 1e921:m:1e943 1e922:v 1e94c:x 1e950:v 1e95a:x 1e95e:v 1e960:x 1ec71:v 1ecb5:x",
     "1ed01:v 1ed3e:x 1ee00:m:627 1ee01:m:628 1ee02:m:62c 1ee03:m:62f 1ee04:x 1ee05:m:648 1ee06:m:632",
     "1ee07:m:62d 1ee08:m:637 1ee09:m:64a 1ee0a:m:643 1ee0b:m:644 1ee0c:m:645 1ee0d:m:646 1ee0e:m:633",
     "1ee0f:m:639 1ee10:m:641 1ee11:m:635 1ee12:m:642 1ee13:m:631 1ee14:m:634 1ee15:m:62a 1ee16:m:62b",
     "1ee17:m:62e 1ee18:m:630 1ee19:m:636 1ee1a:m:638 1ee1b:m:63a 1ee1c:m:66e 1ee1d:m:6ba 1ee1e:m:6a1",
     "1ee1f:m:66f 1ee20:x 1ee21:m:628 1ee22:m:62c 1ee23:x 1ee24:m:647 1ee25:x 1ee27:m:62d 1ee28:x",
     "1ee29:m:64a 1ee2a:m:643 1ee2b:m:644 1ee2c:m:645 1ee2d:m:646 1ee2e:m:633 1ee2f:m:639 1ee30:m:641",
     "1ee31:m:635 1ee32:m:642 1ee33:x 1ee34:m:634 1ee35:m:62a 1ee36:m:62b 1ee37:m:62e 1ee38:x",
     "1ee39:m:636 1ee3a:x 1ee3b:m:63a 1ee3c:x 1ee42:m:62c 1ee43:x 1ee47:m:62d 1ee48:x 1ee49:m:64a",
     "1ee4a:x 1ee4b:m:644 1ee4c:x 1ee4d:m:646 1ee4e:m:633 1ee4f:m:639 1ee50:x 1ee51:m:635 1ee52:m:642",
     "1ee53:x 1ee54:m:634 1ee55:x 1ee57:m:62e 1ee58:x 1ee59:m:636 1ee5a:x 1ee5b:m:63a 1ee5c:x",
     "1ee5d:m:6ba 1ee5e:x 1ee5f:m:66f 1ee60:x 1ee61:m:628 1ee62:m:62c 1ee63:x 1ee64:m:647 1ee65:x",
     "1ee67:m:62d 1ee68:m:637 1ee69:m:64a 1ee6a:m:643 1ee6b:x 1ee6c:m:645 1ee6d:m:646 1ee6e:m:633",
     "1ee6f:m:639 1ee70:m:641 1ee71:m:635 1ee72:m:642 1ee73:x 1ee74:m:634 1ee75:m:62a 1ee76:m:62b",
     "1ee77:m:62e 1ee78:x 1ee79:m:636 1ee7a:m:638 1ee7b:m:63a 1ee7c:m:66e 1ee7d:x 1ee7e:m:6a1 1ee7f:x",
     "1ee80:m:627 1ee81:m:628 1ee82:m:62c 1ee83:m:62f 1ee84:m:647 1ee85:m:648 1ee86:m:632 1ee87:m:62d",
     "1ee88:m:637 1ee89:m:64a 1ee8a:x 1ee8b:m:644 1ee8c:m:645 1ee8d:m:646 1ee8e:m:633 1ee8f:m:639",
     "1ee90:m:641 1ee91:m:635 1ee92:m:642 1ee93:m:631 1ee94:m:634 1ee95:m:62a 1ee96:m:62b 1ee97:m:62e",
     "1ee98:m:630 1ee99:m:636 1ee9a:m:638 1ee9b:m:63a 1ee9c:x 1eea1:m:628 1eea2:m:62c 1eea3:m:62f",
     "1eea4:x 1eea5:m:648 1eea6:m:632 1eea7:m:62d 1eea8:m:637 1eea9:m:64a 1eeaa:x 1eeab:m:644",
     "1eeac:m:645 1eead:m:646 1eeae:m:633 1eeaf:m:639 1eeb0:m:641 1eeb1:m:635 1eeb2:m:642 1eeb3:m:631",
     "1eeb4:m:634 1eeb5:m:62a 1eeb6:m:62b 1eeb7:m:62e 1eeb8:m:630 1eeb9:m:636 1eeba:m:638 1eebb:m:63a",
     "1eebc:x 1eef0:v 1eef2:x 1f000:v 1f02c:x 1f030:v 1f094:x 1f0a0:v 1f0af:x 1f0b1:v 1f0c0:x 1f0c1:v",
     "1f0d0:x 1f0d1:v 1f0f6:x 1f101:m:30.2c 1f102:m:31.2c 1f103:m:32.2c 1f104:m:33.2c 1f105:m:34.2c",
     "1f106:m:35.2c 1f107:m:36.2c 1f108:m:37.2c 1f109:m:38.2c 1f10a:m:39.2c 1f10b:v 1f110:m:28.61.29",
     "1f111:m:28.62.29 1f112:m:28.63.29 1f113:m:28.64.29 1f114:m:28.65.29 1f115:m:28.66.29",
     "1f116:m:28.67.29 1f117:m:28.68.29 1f118:m:28.69.29 1f119:m:28.6a.29 1f11a:m:28.6b.29",
     "1f11b:m:28.6c.29 1f11c:m:28.6d.29 1f11d:m:28.6e.29 1f11e:m:28.6f.29 1f11f:m:28.70.29",
     "1f120:m:28.71.29 1f121:m:28.72.29 1f122:m:28.73.29 1f123:m:28.74.29 1f124:m:28.75.29",
     "1f125:m:28.76.29 1f126:m:28.77.29 1f127:m:28.78.29 1f128:m:28.79.29 1f129:m:28.7a.29",
     "1f12a:m:3014.73.3015 1f12b:m:63 1f12c:m:72 1f12d:m:63.64 1f12e:m:77.7a 1f12f:v 1f130:m:61",
     "1f131:m:62 1f132:m:63 1f133:m:64 1f134:m:65 1f135:m:66 1f136:m:67 1f137:m:68 1f138:m:69",
     "1f139:m:6a 1f13a:m:6b 1f13b:m:6c 1f13c:m:6d 1f13d:m:6e 1f13e:m:6f 1f13f:m:70 1f140:m:71",
     "1f141:m:72 1f142:m:73 1f143:m:74 1f144:m:75 1f145:m:76 1f146:m:77 1f147:m:78 1f148:m:79",
     "1f149:m:7a 1f14a:m:68.76 1f14b:m:6d.76 1f14c:m:73.64 1f14d:m:73.73 1f14e:m:70.70.76",
     "1f14f:m:77.63 1f150:v 1f16a:m:6d.63 1f16b:m:6d.64 1f16c:m:6d.72 1f16d:v 1f190:m:64.6a 1f191:v",
     "1f1ae:x 1f1e6:v 1f200:m:307b.304b 1f201:m:30b3.30b3 1f202:m:30b5 1f203:x 1f210:m:624b",
     "1f211:m:5b57 1f212:m:53cc 1f213:m:30c7 1f214:m:4e8c 1f215:m:591a 1f216:m:89e3 1f217:m:5929",
     "1f218:m:4ea4 1f219:m:6620 1f21a:m:7121 1f21b:m:6599 1f21c:m:524d 1f21d:m:5f8c 1f21e:m:518d",
     "1f21f:m:65b0 1f220:m:521d 1f221:m:7d42 1f222:m:751f 1f223:m:8ca9 1f224:m:58f0 1f225:m:5439",
     "1f226:m:6f14 1f227:m:6295 1f228:m:6355 1f229:m:4e00 1f22a:m:4e09 1f22b:m:904a 1f22c:m:5de6",
     "1f22d:m:4e2d 1f22e:m:53f3 1f22f:m:6307 1f230:m:8d70 1f231:m:6253 1f232:m:7981 1f233:m:7a7a",
     "1f234:m:5408 1f235:m:6e80 1f236:m:6709 1f237:m:6708 1f238:m:7533 1f239:m:5272 1f23a:m:55b6",
     "1f23b:m:914d 1f23c:x 1f240:m:3014.672c.3015 1f241:m:3014.4e09.3015 1f242:m:3014.4e8c.3015",
     "1f243:m:3014.5b89.3015 1f244:m:3014.70b9.3015 1f245:m:3014.6253.3015 1f246:m:3014.76d7.3015",
     "1f247:m:3014.52dd.3015 1f248:m:3014.6557.3015 1f249:x 1f250:m:5f97 1f251:m:53ef 1f252:x 1f260:v",
     "1f266:x 1f300:v 1f6d9:x 1f6dc:v 1f6ed:x 1f6f0:v 1f6fd:x 1f700:v 1f7da:x 1f7e0:v 1f7ec:x 1f7f0:v",
     "1f7f1:x 1f800:v 1f80c:x 1f810:v 1f848:x 1f850:v 1f85a:x 1f860:v 1f888:x 1f890:v 1f8ae:x 1f8b0:v",
     "1f8bc:x 1f8c0:v 1f8c2:x 1f8d0:v 1f8d9:x 1f900:v 1fa58:x 1fa60:v 1fa6e:x 1fa70:v 1fa7d:x 1fa80:v",
     "1fa8b:x 1fa8e:v 1fac7:x 1fac8:v 1fac9:x 1facd:v 1fadd:x 1fadf:v 1faeb:x 1faef:v 1faf9:x 1fb00:v",
     "1fb93:x 1fb94:v 1fbf0:m:30 1fbf1:m:31 1fbf2:m:32 1fbf3:m:33 1fbf4:m:34 1fbf5:m:35 1fbf6:m:36",
     "1fbf7:m:37 1fbf8:m:38 1fbf9:m:39 1fbfa:v 1fbfb:x 20000:v 2a6e0:x 2a700:v 2b81e:x 2b820:v 2ceae:x",
     "2ceb0:v 2ebe1:x 2ebf0:v 2ee5e:x 2f800:m:4e3d 2f801:m:4e38 2f802:m:4e41 2f803:m:20122",
     "2f804:m:4f60 2f805:m:4fae 2f806:m:4fbb 2f807:m:5002 2f808:m:507a 2f809:m:5099 2f80a:m:50e7",
     "2f80b:m:50cf 2f80c:m:349e 2f80d:m:2063a 2f80e:m:514d 2f80f:m:5154 2f810:m:5164 2f811:m:5177",
     "2f812:m:2051c 2f813:m:34b9 2f814:m:5167 2f815:m:518d 2f816:m:2054b 2f817:m:5197 2f818:m:51a4",
     "2f819:m:4ecc 2f81a:m:51ac 2f81b:m:51b5 2f81c:m:291df 2f81d:m:51f5 2f81e:m:5203 2f81f:m:34df",
     "2f820:m:523b 2f821:m:5246 2f822:m:5272 2f823:m:5277 2f824:m:3515 2f825:m:52c7 2f826:m:52c9",
     "2f827:m:52e4 2f828:m:52fa 2f829:m:5305 2f82a:m:5306 2f82b:m:5317 2f82c:m:5349 2f82d:m:5351",
     "2f82e:m:535a 2f82f:m:5373 2f830:m:537d 2f831:m:537f 2f834:m:20a2c 2f835:m:7070 2f836:m:53ca",
     "2f837:m:53df 2f838:m:20b63 2f839:m:53eb 2f83a:m:53f1 2f83b:m:5406 2f83c:m:549e 2f83d:m:5438",
     "2f83e:m:5448 2f83f:m:5468 2f840:m:54a2 2f841:m:54f6 2f842:m:5510 2f843:m:5553 2f844:m:5563",
     "2f845:m:5584 2f847:m:5599 2f848:m:55ab 2f849:m:55b3 2f84a:m:55c2 2f84b:m:5716 2f84c:m:5606",
     "2f84d:m:5717 2f84e:m:5651 2f84f:m:5674 2f850:m:5207 2f851:m:58ee 2f852:m:57ce 2f853:m:57f4",
     "2f854:m:580d 2f855:m:578b 2f856:m:5832 2f857:m:5831 2f858:m:58ac 2f859:m:214e4 2f85a:m:58f2",
     "2f85b:m:58f7 2f85c:m:5906 2f85d:m:591a 2f85e:m:5922 2f85f:m:5962 2f860:m:216a8 2f861:m:216ea",
     "2f862:m:59ec 2f863:m:5a1b 2f864:m:5a27 2f865:m:59d8 2f866:m:5a66 2f867:m:36ee 2f868:m:36fc",
     "2f869:m:5b08 2f86a:m:5b3e 2f86c:m:219c8 2f86d:m:5bc3 2f86e:m:5bd8 2f86f:m:5be7 2f870:m:5bf3",
     "2f871:m:21b18 2f872:m:5bff 2f873:m:5c06 2f874:m:5f53 2f875:m:5c22 2f876:m:3781 2f877:m:5c60",
     "2f878:m:5c6e 2f879:m:5cc0 2f87a:m:5c8d 2f87b:m:21de4 2f87c:m:5d43 2f87d:m:21de6 2f87e:m:5d6e",
     "2f87f:m:5d6b 2f880:m:5d7c 2f881:m:5de1 2f882:m:5de2 2f883:m:382f 2f884:m:5dfd 2f885:m:5e28",
     "2f886:m:5e3d 2f887:m:5e69 2f888:m:3862 2f889:m:22183 2f88a:m:387c 2f88b:m:5eb0 2f88c:m:5eb3",
     "2f88d:m:5eb6 2f88e:m:5eca 2f88f:m:2a392 2f890:m:5efe 2f891:m:22331 2f893:m:8201 2f894:m:5f22",
     "2f896:m:38c7 2f897:m:232b8 2f898:m:261da 2f899:m:5f62 2f89a:m:5f6b 2f89b:m:38e3 2f89c:m:5f9a",
     "2f89d:m:5fcd 2f89e:m:5fd7 2f89f:m:5ff9 2f8a0:m:6081 2f8a1:m:393a 2f8a2:m:391c 2f8a3:m:6094",
     "2f8a4:m:226d4 2f8a5:m:60c7 2f8a6:m:6148 2f8a7:m:614c 2f8a8:m:614e 2f8a9:m:614c 2f8aa:m:617a",
     "2f8ab:m:618e 2f8ac:m:61b2 2f8ad:m:61a4 2f8ae:m:61af 2f8af:m:61de 2f8b0:m:61f2 2f8b1:m:61f6",
     "2f8b2:m:6210 2f8b3:m:621b 2f8b4:m:625d 2f8b5:m:62b1 2f8b6:m:62d4 2f8b7:m:6350 2f8b8:m:22b0c",
     "2f8b9:m:633d 2f8ba:m:62fc 2f8bb:m:6368 2f8bc:m:6383 2f8bd:m:63e4 2f8be:m:22bf1 2f8bf:m:6422",
     "2f8c0:m:63c5 2f8c1:m:63a9 2f8c2:m:3a2e 2f8c3:m:6469 2f8c4:m:647e 2f8c5:m:649d 2f8c6:m:6477",
     "2f8c7:m:3a6c 2f8c8:m:654f 2f8c9:m:656c 2f8ca:m:2300a 2f8cb:m:65e3 2f8cc:m:66f8 2f8cd:m:6649",
     "2f8ce:m:3b19 2f8cf:m:6691 2f8d0:m:3b08 2f8d1:m:3ae4 2f8d2:m:5192 2f8d3:m:5195 2f8d4:m:6700",
     "2f8d5:m:669c 2f8d6:m:80ad 2f8d7:m:43d9 2f8d8:m:6717 2f8d9:m:671b 2f8da:m:6721 2f8db:m:675e",
     "2f8dc:m:6753 2f8dd:m:233c3 2f8de:m:3b49 2f8df:m:67fa 2f8e0:m:6785 2f8e1:m:6852 2f8e2:m:6885",
     "2f8e3:m:2346d 2f8e4:m:688e 2f8e5:m:681f 2f8e6:m:6914 2f8e7:m:3b9d 2f8e8:m:6942 2f8e9:m:69a3",
     "2f8ea:m:69ea 2f8eb:m:6aa8 2f8ec:m:236a3 2f8ed:m:6adb 2f8ee:m:3c18 2f8ef:m:6b21 2f8f0:m:238a7",
     "2f8f1:m:6b54 2f8f2:m:3c4e 2f8f3:m:6b72 2f8f4:m:6b9f 2f8f5:m:6bba 2f8f6:m:6bbb 2f8f7:m:23a8d",
     "2f8f8:m:21d0b 2f8f9:m:23afa 2f8fa:m:6c4e 2f8fb:m:23cbc 2f8fc:m:6cbf 2f8fd:m:6ccd 2f8fe:m:6c67",
     "2f8ff:m:6d16 2f900:m:6d3e 2f901:m:6d77 2f902:m:6d41 2f903:m:6d69 2f904:m:6d78 2f905:m:6d85",
     "2f906:m:23d1e 2f907:m:6d34 2f908:m:6e2f 2f909:m:6e6e 2f90a:m:3d33 2f90b:m:6ecb 2f90c:m:6ec7",
     "2f90d:m:23ed1 2f90e:m:6df9 2f90f:m:6f6e 2f910:m:23f5e 2f911:m:23f8e 2f912:m:6fc6 2f913:m:7039",
     "2f914:m:701e 2f915:m:701b 2f916:m:3d96 2f917:m:704a 2f918:m:707d 2f919:m:7077 2f91a:m:70ad",
     "2f91b:m:20525 2f91c:m:7145 2f91d:m:24263 2f91e:m:719c 2f91f:m:243ab 2f920:m:7228 2f921:m:7235",
     "2f922:m:7250 2f923:m:24608 2f924:m:7280 2f925:m:7295 2f926:m:24735 2f927:m:24814 2f928:m:737a",
     "2f929:m:738b 2f92a:m:3eac 2f92b:m:73a5 2f92c:m:3eb8 2f92e:m:7447 2f92f:m:745c 2f930:m:7471",
     "2f931:m:7485 2f932:m:74ca 2f933:m:3f1b 2f934:m:7524 2f935:m:24c36 2f936:m:753e 2f937:m:24c92",
     "2f938:m:7570 2f939:m:2219f 2f93a:m:7610 2f93b:m:24fa1 2f93c:m:24fb8 2f93d:m:25044 2f93e:m:3ffc",
     "2f93f:m:4008 2f940:m:76f4 2f941:m:250f3 2f942:m:250f2 2f943:m:25119 2f944:m:25133 2f945:m:771e",
     "2f946:m:771f 2f948:m:774a 2f949:m:4039 2f94a:m:778b 2f94b:m:4046 2f94c:m:4096 2f94d:m:2541d",
     "2f94e:m:784e 2f94f:m:788c 2f950:m:78cc 2f951:m:40e3 2f952:m:25626 2f953:m:7956 2f954:m:2569a",
     "2f955:m:256c5 2f956:m:798f 2f957:m:79eb 2f958:m:412f 2f959:m:7a40 2f95a:m:7a4a 2f95b:m:7a4f",
     "2f95c:m:2597c 2f95d:m:25aa7 2f95f:m:7aee 2f960:m:4202 2f961:m:25bab 2f962:m:7bc6 2f963:m:7bc9",
     "2f964:m:4227 2f965:m:25c80 2f966:m:7cd2 2f967:m:42a0 2f968:m:7ce8 2f969:m:7ce3 2f96a:m:7d00",
     "2f96b:m:25f86 2f96c:m:7d63 2f96d:m:4301 2f96e:m:7dc7 2f96f:m:7e02 2f970:m:7e45 2f971:m:4334",
     "2f972:m:26228 2f973:m:26247 2f974:m:4359 2f975:m:262d9 2f976:m:7f7a 2f977:m:2633e 2f978:m:7f95",
     "2f979:m:7ffa 2f97a:m:8005 2f97b:m:264da 2f97c:m:26523 2f97d:m:8060 2f97e:m:265a8 2f97f:m:8070",
     "2f980:m:2335f 2f981:m:43d5 2f982:m:80b2 2f983:m:8103 2f984:m:440b 2f985:m:813e 2f986:m:5ab5",
     "2f987:m:267a7 2f988:m:267b5 2f989:m:23393 2f98a:m:2339c 2f98b:m:8201 2f98c:m:8204 2f98d:m:8f9e",
     "2f98e:m:446b 2f98f:m:8291 2f990:m:828b 2f991:m:829d 2f992:m:52b3 2f993:m:82b1 2f994:m:82b3",
     "2f995:m:82bd 2f996:m:82e6 2f997:m:26b3c 2f998:m:82e5 2f999:m:831d 2f99a:m:8363 2f99b:m:83ad",
     "2f99c:m:8323 2f99d:m:83bd 2f99e:m:83e7 2f99f:m:8457 2f9a0:m:8353 2f9a1:m:83ca 2f9a2:m:83cc",
     "2f9a3:m:83dc 2f9a4:m:26c36 2f9a5:m:26d6b 2f9a6:m:26cd5 2f9a7:m:452b 2f9a8:m:84f1 2f9a9:m:84f3",
     "2f9aa:m:8516 2f9ab:m:273ca 2f9ac:m:8564 2f9ad:m:26f2c 2f9ae:m:455d 2f9af:m:4561 2f9b0:m:26fb1",
     "2f9b1:m:270d2 2f9b2:m:456b 2f9b3:m:8650 2f9b4:m:865c 2f9b5:m:8667 2f9b6:m:8669 2f9b7:m:86a9",
     "2f9b8:m:8688 2f9b9:m:870e 2f9ba:m:86e2 2f9bb:m:8779 2f9bc:m:8728 2f9bd:m:876b 2f9be:m:8786",
     "2f9bf:m:45d7 2f9c0:m:87e1 2f9c1:m:8801 2f9c2:m:45f9 2f9c3:m:8860 2f9c4:m:8863 2f9c5:m:27667",
     "2f9c6:m:88d7 2f9c7:m:88de 2f9c8:m:4635 2f9c9:m:88fa 2f9ca:m:34bb 2f9cb:m:278ae 2f9cc:m:27966",
     "2f9cd:m:46be 2f9ce:m:46c7 2f9cf:m:8aa0 2f9d0:m:8aed 2f9d1:m:8b8a 2f9d2:m:8c55 2f9d3:m:27ca8",
     "2f9d4:m:8cab 2f9d5:m:8cc1 2f9d6:m:8d1b 2f9d7:m:8d77 2f9d8:m:27f2f 2f9d9:m:20804 2f9da:m:8dcb",
     "2f9db:m:8dbc 2f9dc:m:8df0 2f9dd:m:208de 2f9de:m:8ed4 2f9df:m:8f38 2f9e0:m:285d2 2f9e1:m:285ed",
     "2f9e2:m:9094 2f9e3:m:90f1 2f9e4:m:9111 2f9e5:m:2872e 2f9e6:m:911b 2f9e7:m:9238 2f9e8:m:92d7",
     "2f9e9:m:92d8 2f9ea:m:927c 2f9eb:m:93f9 2f9ec:m:9415 2f9ed:m:28bfa 2f9ee:m:958b 2f9ef:m:4995",
     "2f9f0:m:95b7 2f9f1:m:28d77 2f9f2:m:49e6 2f9f3:m:96c3 2f9f4:m:5db2 2f9f5:m:9723 2f9f6:m:29145",
     "2f9f7:m:2921a 2f9f8:m:4a6e 2f9f9:m:4a76 2f9fa:m:97e0 2f9fb:m:2940a 2f9fc:m:4ab2 2f9fd:m:29496",
     "2f9fe:m:980b 2fa00:m:9829 2fa01:m:295b6 2fa02:m:98e2 2fa03:m:4b33 2fa04:m:9929 2fa05:m:99a7",
     "2fa06:m:99c2 2fa07:m:99fe 2fa08:m:4bce 2fa09:m:29b30 2fa0a:m:9b12 2fa0b:m:9c40 2fa0c:m:9cfd",
     "2fa0d:m:4cce 2fa0e:m:4ced 2fa0f:m:9d67 2fa10:m:2a0ce 2fa11:m:4cf8 2fa12:m:2a105 2fa13:m:2a20e",
     "2fa14:m:2a291 2fa15:m:9ebb 2fa16:m:4d56 2fa17:m:9ef9 2fa18:m:9efe 2fa19:m:9f05 2fa1a:m:9f0f",
     "2fa1b:m:9f16 2fa1c:m:9f3b 2fa1d:m:2a600 2fa1e:x 30000:v 3134b:x 31350:v 3347a:x e0100:i e01f0:x"]

def readIdnaEntry (word : String) : Nat × IdnaStatus :=
  match word.splitOn ":" with
  | [start, "v"] => (readHex start, .valid)
  | [start, "d"] => (readHex start, .deviation)
  | [start, "i"] => (readHex start, .ignored)
  | [start, "m", image] => (readHex start, .mapped ((image.splitOn ".").map readHex))
  | start :: _ => (readHex start, .disallowed)
  | [] => (0, .disallowed)

def idnaMappingTable : Array (Nat × IdnaStatus) :=
  ((idnaMappingText.splitOn " ").filter (!·.isEmpty)).toArray.map readIdnaEntry

def idnaStatusBetween (cp lo hi : Nat) : IdnaStatus :=
  if lo + 1 < hi then
    let mid := (lo + hi) / 2
    match idnaMappingTable[mid]? with
    | some (start, _) => if cp < start then idnaStatusBetween cp lo mid else idnaStatusBetween cp mid hi
    | none => .disallowed
  else ((idnaMappingTable[lo]?).map (·.2)).getD .disallowed
termination_by hi - lo

/-- How domain-name processing treats a code point. -/
def idnaStatus (cp : Nat) : IdnaStatus := idnaStatusBetween cp 0 idnaMappingTable.size

end TableSync
