import ComplianceScanner.Unicode.Run

/-! Simple case folding: characters that differ in case only are folded to the same character. -/

namespace ComplianceScanner.Unicode

def foldingText : String :=
  "65,26,97 181,1,956 192,23,224 216,7,248 256,1,257 258,1,259 260,1,261 262,1,263 264,1,265
  266,1,267 268,1,269 270,1,271 272,1,273 274,1,275 276,1,277 278,1,279 280,1,281 282,1,283
  284,1,285 286,1,287 288,1,289 290,1,291 292,1,293 294,1,295 296,1,297 298,1,299 300,1,301
  302,1,303 306,1,307 308,1,309 310,1,311 313,1,314 315,1,316 317,1,318 319,1,320 321,1,322
  323,1,324 325,1,326 327,1,328 330,1,331 332,1,333 334,1,335 336,1,337 338,1,339 340,1,341
  342,1,343 344,1,345 346,1,347 348,1,349 350,1,351 352,1,353 354,1,355 356,1,357 358,1,359
  360,1,361 362,1,363 364,1,365 366,1,367 368,1,369 370,1,371 372,1,373 374,1,375 376,1,255
  377,1,378 379,1,380 381,1,382 383,1,115 385,1,595 386,1,387 388,1,389 390,1,596 391,1,392
  393,2,598 395,1,396 398,1,477 399,1,601 400,1,603 401,1,402 403,1,608 404,1,611 406,1,617
  407,1,616 408,1,409 412,1,623 413,1,626 415,1,629 416,1,417 418,1,419 420,1,421 422,1,640
  423,1,424 425,1,643 428,1,429 430,1,648 431,1,432 433,2,650 435,1,436 437,1,438 439,1,658
  440,1,441 444,1,445 452,1,454 453,1,454 455,1,457 456,1,457 458,1,460 459,1,460 461,1,462
  463,1,464 465,1,466 467,1,468 469,1,470 471,1,472 473,1,474 475,1,476 478,1,479 480,1,481
  482,1,483 484,1,485 486,1,487 488,1,489 490,1,491 492,1,493 494,1,495 497,1,499 498,1,499
  500,1,501 502,1,405 503,1,447 504,1,505 506,1,507 508,1,509 510,1,511 512,1,513 514,1,515
  516,1,517 518,1,519 520,1,521 522,1,523 524,1,525 526,1,527 528,1,529 530,1,531 532,1,533
  534,1,535 536,1,537 538,1,539 540,1,541 542,1,543 544,1,414 546,1,547 548,1,549 550,1,551
  552,1,553 554,1,555 556,1,557 558,1,559 560,1,561 562,1,563 570,1,11365 571,1,572 573,1,410
  574,1,11366 577,1,578 579,1,384 580,1,649 581,1,652 582,1,583 584,1,585 586,1,587 588,1,589
  590,1,591 837,1,953 880,1,881 882,1,883 886,1,887 895,1,1011 902,1,940 904,3,941 908,1,972
  910,2,973 913,17,945 931,9,963 962,1,963 975,1,983 976,1,946 977,1,952 981,1,966 982,1,960
  984,1,985 986,1,987 988,1,989 990,1,991 992,1,993 994,1,995 996,1,997 998,1,999 1000,1,1001
  1002,1,1003 1004,1,1005 1006,1,1007 1008,1,954 1009,1,961 1012,1,952 1013,1,949 1015,1,1016
  1017,1,1010 1018,1,1019 1021,3,891 1024,16,1104 1040,32,1072 1120,1,1121 1122,1,1123 1124,1,1125
  1126,1,1127 1128,1,1129 1130,1,1131 1132,1,1133 1134,1,1135 1136,1,1137 1138,1,1139 1140,1,1141
  1142,1,1143 1144,1,1145 1146,1,1147 1148,1,1149 1150,1,1151 1152,1,1153 1162,1,1163 1164,1,1165
  1166,1,1167 1168,1,1169 1170,1,1171 1172,1,1173 1174,1,1175 1176,1,1177 1178,1,1179 1180,1,1181
  1182,1,1183 1184,1,1185 1186,1,1187 1188,1,1189 1190,1,1191 1192,1,1193 1194,1,1195 1196,1,1197
  1198,1,1199 1200,1,1201 1202,1,1203 1204,1,1205 1206,1,1207 1208,1,1209 1210,1,1211 1212,1,1213
  1214,1,1215 1216,1,1231 1217,1,1218 1219,1,1220 1221,1,1222 1223,1,1224 1225,1,1226 1227,1,1228
  1229,1,1230 1232,1,1233 1234,1,1235 1236,1,1237 1238,1,1239 1240,1,1241 1242,1,1243 1244,1,1245
  1246,1,1247 1248,1,1249 1250,1,1251 1252,1,1253 1254,1,1255 1256,1,1257 1258,1,1259 1260,1,1261
  1262,1,1263 1264,1,1265 1266,1,1267 1268,1,1269 1270,1,1271 1272,1,1273 1274,1,1275 1276,1,1277
  1278,1,1279 1280,1,1281 1282,1,1283 1284,1,1285 1286,1,1287 1288,1,1289 1290,1,1291 1292,1,1293
  1294,1,1295 1296,1,1297 1298,1,1299 1300,1,1301 1302,1,1303 1304,1,1305 1306,1,1307 1308,1,1309
  1310,1,1311 1312,1,1313 1314,1,1315 1316,1,1317 1318,1,1319 1320,1,1321 1322,1,1323 1324,1,1325
  1326,1,1327 1329,38,1377 4256,38,11520 4295,1,11559 4301,1,11565 5112,6,5104 7296,1,1074
  7297,1,1076 7298,1,1086 7299,2,1089 7301,1,1090 7302,1,1098 7303,1,1123 7304,1,42571
  7312,43,4304 7357,3,4349 7680,1,7681 7682,1,7683 7684,1,7685 7686,1,7687 7688,1,7689 7690,1,7691
  7692,1,7693 7694,1,7695 7696,1,7697 7698,1,7699 7700,1,7701 7702,1,7703 7704,1,7705 7706,1,7707
  7708,1,7709 7710,1,7711 7712,1,7713 7714,1,7715 7716,1,7717 7718,1,7719 7720,1,7721 7722,1,7723
  7724,1,7725 7726,1,7727 7728,1,7729 7730,1,7731 7732,1,7733 7734,1,7735 7736,1,7737 7738,1,7739
  7740,1,7741 7742,1,7743 7744,1,7745 7746,1,7747 7748,1,7749 7750,1,7751 7752,1,7753 7754,1,7755
  7756,1,7757 7758,1,7759 7760,1,7761 7762,1,7763 7764,1,7765 7766,1,7767 7768,1,7769 7770,1,7771
  7772,1,7773 7774,1,7775 7776,1,7777 7778,1,7779 7780,1,7781 7782,1,7783 7784,1,7785 7786,1,7787
  7788,1,7789 7790,1,7791 7792,1,7793 7794,1,7795 7796,1,7797 7798,1,7799 7800,1,7801 7802,1,7803
  7804,1,7805 7806,1,7807 7808,1,7809 7810,1,7811 7812,1,7813 7814,1,7815 7816,1,7817 7818,1,7819
  7820,1,7821 7822,1,7823 7824,1,7825 7826,1,7827 7828,1,7829 7835,1,7777 7838,1,223 7840,1,7841
  7842,1,7843 7844,1,7845 7846,1,7847 7848,1,7849 7850,1,7851 7852,1,7853 7854,1,7855 7856,1,7857
  7858,1,7859 7860,1,7861 7862,1,7863 7864,1,7865 7866,1,7867 7868,1,7869 7870,1,7871 7872,1,7873
  7874,1,7875 7876,1,7877 7878,1,7879 7880,1,7881 7882,1,7883 7884,1,7885 7886,1,7887 7888,1,7889
  7890,1,7891 7892,1,7893 7894,1,7895 7896,1,7897 7898,1,7899 7900,1,7901 7902,1,7903 7904,1,7905
  7906,1,7907 7908,1,7909 7910,1,7911 7912,1,7913 7914,1,7915 7916,1,7917 7918,1,7919 7920,1,7921
  7922,1,7923 7924,1,7925 7926,1,7927 7928,1,7929 7930,1,7931 7932,1,7933 7934,1,7935 7944,8,7936
  7960,6,7952 7976,8,7968 7992,8,7984 8008,6,8000 8025,1,8017 8027,1,8019 8029,1,8021 8031,1,8023
  8040,8,8032 8072,8,8064 8088,8,8080 8104,8,8096 8120,2,8112 8122,2,8048 8124,1,8115 8126,1,953
  8136,4,8050 8140,1,8131 8152,2,8144 8154,2,8054 8168,2,8160 8170,2,8058 8172,1,8165 8184,2,8056
  8186,2,8060 8188,1,8179 8486,1,969 8490,1,107 8491,1,229 8498,1,8526 8544,16,8560 8579,1,8580
  9398,26,9424 11264,48,11312 11360,1,11361 11362,1,619 11363,1,7549 11364,1,637 11367,1,11368
  11369,1,11370 11371,1,11372 11373,1,593 11374,1,625 11375,1,592 11376,1,594 11378,1,11379
  11381,1,11382 11390,2,575 11392,1,11393 11394,1,11395 11396,1,11397 11398,1,11399 11400,1,11401
  11402,1,11403 11404,1,11405 11406,1,11407 11408,1,11409 11410,1,11411 11412,1,11413
  11414,1,11415 11416,1,11417 11418,1,11419 11420,1,11421 11422,1,11423 11424,1,11425
  11426,1,11427 11428,1,11429 11430,1,11431 11432,1,11433 11434,1,11435 11436,1,11437
  11438,1,11439 11440,1,11441 11442,1,11443 11444,1,11445 11446,1,11447 11448,1,11449
  11450,1,11451 11452,1,11453 11454,1,11455 11456,1,11457 11458,1,11459 11460,1,11461
  11462,1,11463 11464,1,11465 11466,1,11467 11468,1,11469 11470,1,11471 11472,1,11473
  11474,1,11475 11476,1,11477 11478,1,11479 11480,1,11481 11482,1,11483 11484,1,11485
  11486,1,11487 11488,1,11489 11490,1,11491 11499,1,11500 11501,1,11502 11506,1,11507
  42560,1,42561 42562,1,42563 42564,1,42565 42566,1,42567 42568,1,42569 42570,1,42571
  42572,1,42573 42574,1,42575 42576,1,42577 42578,1,42579 42580,1,42581 42582,1,42583
  42584,1,42585 42586,1,42587 42588,1,42589 42590,1,42591 42592,1,42593 42594,1,42595
  42596,1,42597 42598,1,42599 42600,1,42601 42602,1,42603 42604,1,42605 42624,1,42625
  42626,1,42627 42628,1,42629 42630,1,42631 42632,1,42633 42634,1,42635 42636,1,42637
  42638,1,42639 42640,1,42641 42642,1,42643 42644,1,42645 42646,1,42647 42648,1,42649
  42650,1,42651 42786,1,42787 42788,1,42789 42790,1,42791 42792,1,42793 42794,1,42795
  42796,1,42797 42798,1,42799 42802,1,42803 42804,1,42805 42806,1,42807 42808,1,42809
  42810,1,42811 42812,1,42813 42814,1,42815 42816,1,42817 42818,1,42819 42820,1,42821
  42822,1,42823 42824,1,42825 42826,1,42827 42828,1,42829 42830,1,42831 42832,1,42833
  42834,1,42835 42836,1,42837 42838,1,42839 42840,1,42841 42842,1,42843 42844,1,42845
  42846,1,42847 42848,1,42849 42850,1,42851 42852,1,42853 42854,1,42855 42856,1,42857
  42858,1,42859 42860,1,42861 42862,1,42863 42873,1,42874 42875,1,42876 42877,1,7545 42878,1,42879
  42880,1,42881 42882,1,42883 42884,1,42885 42886,1,42887 42891,1,42892 42893,1,613 42896,1,42897
  42898,1,42899 42902,1,42903 42904,1,42905 42906,1,42907 42908,1,42909 42910,1,42911
  42912,1,42913 42914,1,42915 42916,1,42917 42918,1,42919 42920,1,42921 42922,1,614 42923,1,604
  42924,1,609 42925,1,620 42926,1,618 42928,1,670 42929,1,647 42930,1,669 42931,1,43859
  42932,1,42933 42934,1,42935 42936,1,42937 42938,1,42939 42940,1,42941 42942,1,42943
  42944,1,42945 42946,1,42947 42948,1,42900 42949,1,642 42950,1,7566 42951,1,42952 42953,1,42954
  42960,1,42961 42966,1,42967 42968,1,42969 42997,1,42998 43888,80,5024 65313,26,65345
  66560,40,66600 66736,36,66776 66928,11,66967 66940,15,66979 66956,7,66995 66964,2,67003
  68736,51,68800 71840,32,71872 93760,32,93792 125184,34,125218"

/-- `length` code points from `first` on are folded to as many from `target` on. -/
structure FoldingRun where
  first : Nat
  length : Nat
  target : Nat

def readFolding : List Nat → List FoldingRun
  | first :: length :: target :: rest => ⟨first, length, target⟩ :: readFolding rest
  | _ => []

def foldingRuns : List FoldingRun := readFolding (readNumbers foldingText.toList)

def FoldingRun.holds (run : FoldingRun) (n : Nat) : Bool :=
  decide (run.first ≤ n) && decide (n < run.first + run.length)

def fold (c : Char) : Nat :=
  match foldingRuns.find? (·.holds c.toNat) with
  | some run => run.target + (c.toNat - run.first)
  | none => c.toNat

/-- All characters with the folding of `c`, itself among them. -/
def caseVariants (c : Char) : List Char :=
  let folded := fold c
  let sources := foldingRuns.filterMap fun run =>
    if run.target ≤ folded ∧ folded < run.target + run.length then
      some (Char.ofNat (run.first + (folded - run.target)))
    else none
  Char.ofNat folded :: sources

end ComplianceScanner.Unicode
