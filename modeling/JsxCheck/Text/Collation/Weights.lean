import JsxCheck.Text.RangeTable

/-!
Weights of characters in the root collation.

An entry `61:4f1` gives a character its place among all others. A place may be followed by `^`, with
a number that tells apart characters of one place before their accents do, and by a dot, with a
number that tells apart forms of one letter such as its capital. `~24` is the weight of an accent,
which has no place of its own. Where a character sorts as several, they are joined by `+`.
-/
namespace JsxCheck.Collation

/-- What a text is compared by, level by level; zero on a level does not count there. -/
structure Element where
  primary : Nat
  secondary : Nat
  tertiary : Nat
  deriving DecidableEq, Inhabited

/-- Places are this far apart, so that characters without an entry fit between two of them. -/
def placeWidth : Nat := 0x200000

/-- The secondary weight of a character without accents. -/
def plainSecondary : Nat := 0x200

/-- The tertiary weight of a character in its plain form. -/
def plainTertiary : Nat := 2

/-- Reads one element of an entry. -/
def Element.read (text : List Char) : Element :=
  let digits (sign : Char) : Option (List Char) :=
    match text.dropWhile (· != sign) with
    | _ :: rest => some (rest.takeWhile fun c => (hexDigit? c).isSome)
    | [] => none
  let tertiary := (digits '.').elim plainTertiary hexNumber
  match digits '~' with
  | some secondary => ⟨0, 16 * hexNumber secondary, tertiary⟩
  | none =>
    ⟨placeWidth * hexNumber (text.takeWhile fun c => (hexDigit? c).isSome),
      plainSecondary + (digits '^').elim 0 hexNumber, tertiary⟩

/-- A character's code point with its elements. -/
def readEntry (entry : List Char) : Nat × List Element :=
  let (code, elements) := entry.span (· != ':')
  (hexNumber code, (splitOnChar '+' (elements.drop 1)).map Element.read)

/-- Entries in increasing order of code points. -/
def weightTable : Array (Nat × List Element) :=
  ((tableEntries [
    "9:1 a:2 b:3 c:4 d:5 20:9 21:33 22:58 23:ab 24:352 25:ac 26:a8 27:55 28:5b 29:5c 2a:a0 2b:1d1",
    "2c:1e 2d:d 2e:3d 2f:a5 30:375 31:376 32:377 33:378 34:379 35:37a 36:37b 37:37c 38:37d 39:37e",
    "3a:30 3b:2b 3c:1d5 3d:1d6 3e:1d7 3f:36 40:9f 41:385.8 42:393.8 43:39e.8 44:3a7.8 45:3b4.8",
    "46:3cb.8 47:3d4.8 48:3e0.8 49:3ec.8 4a:3f8.8 4b:3ff.8 4c:408.8 4d:41d.8 4e:426.8 4f:435.8",
    "50:452.8 51:45f.8 52:466.8 53:483.8 54:493.8 55:49e.8 56:4b6.8 57:4bf.8 58:4c3.8 59:4cc.8",
    "5a:4d3.8 5b:5d 5c:a6 5d:5e 5e:ed 5f:b 60:ea 61:385 62:393 63:39e 64:3a7 65:3b4 66:3cb 67:3d4",
    "68:3e0 69:3ec 6a:3f8 6b:3ff 6c:408 6d:41d 6e:426 6f:435 70:452 71:45f 72:466 73:483 74:493",
    "75:49e 76:4b6 77:4bf 78:4c3 79:4cc 7a:4d3 7b:5f 7c:1d9 7d:60 7e:1db 85:6 a0:9.1b a1:34",
    "a2:351 a3:353 a4:350 a5:354 a6:1da a7:99 a8:f1 a9:13f aa:385.14 ab:59 ac:1d8 ae:140 af:ee",
    "b0:136 b1:1d2 b2:377.14 b3:378.14 b4:eb b5:523.4 b6:9b b7:42 b8:f4 b9:376.14 ba:435.14 bb:5a",
    "bc:376.1e+1e1.1e+379.1e bd:376.1e+1e1.1e+377.1e be:378.1e+1e1.1e+379.1e bf:37",
    "c6:385.a+~118.4+3b4.a d0:3a7.a+~118.4 d7:1d4 d8:435.8+~2f de:4e4.8 df:483.4+~118.4+483.4",
    "e6:385.4+~118.4+3b4.4 f0:3a7.4+~118.4 f7:1d3 f8:435+~2f fe:4e4 110:3a7.8+~39 111:3a7+~39",
    "126:3e0.8+~39 127:3e0+~39 131:3ed 132:3ec.a+3f8.a 133:3ec.4+3f8.4 138:465 13f:408.8+~118",
    "140:408+~118 141:408.8+~39 142:408+~39 149:4fa.4+426.4 14a:433.8 14b:433",
    "152:435.a+~118.4+3b4.a 153:435.4+~118.4+3b4.4 166:495.8 167:495 17f:483.4+~119.4 180:395",
    "181:39b.8 182:39c.8 183:39c 184:4f6.8 185:4f6 186:442.8 187:3a3.8 188:3a3 189:3ad.8",
    "18a:3ae.8 18b:3b0.8 18c:3b0 18d:4d3.4+4bf.4 18e:3bc.8 18f:3be.8 190:3c0.8 191:3d1.8 192:3d1",
    "193:3da.8 194:3de.8 195:3e2 196:3f6.8 197:3f2.8 198:402.8 199:402 19a:40d 19b:41b 19c:4b0.8",
    "19d:42b.8 19e:42c 19f:44c.8 1a2:3df.8 1a3:3df 1a4:459.8 1a5:459 1a6:468.8 1a7:4f4.8 1a8:4f4",
    "1a9:48c.8 1aa:490 1ab:498 1ac:499.8 1ad:499 1ae:49a.8 1b1:4b4.8 1b2:4ba.8 1b3:4cf.8 1b4:4cf",
    "1b5:4d5.8 1b6:4d5 1b7:4de.8 1b8:4e0.8 1b9:4e0 1ba:4e2 1bb:4f0 1bc:4f5.8 1bd:4f5",
    "1be:493.4+483.4 1bf:4e7 1c0:509 1c1:50a 1c2:50b 1c3:50c 1c4:3a7.a+4d3.a+~28.4",
    "1c5:3a7.a+4d3.4+~28.4 1c6:3a7.4+4d3.4+~28.4 1c7:408.a+3f8.a 1c8:408.a+3f8.4 1c9:408.4+3f8.4",
    "1ca:426.a+3f8.a 1cb:426.a+3f8.4 1cc:426.4+3f8.4 1dd:3bc 1e4:3d8.8 1e5:3d8 1f1:3a7.a+4d3.a",
    "1f2:3a7.a+4d3.4 1f3:3a7.4+4d3.4 1f6:3e2.8 1f7:4e7.8 21c:4d2.8 21d:4d2 220:42c.8 221:3b1",
    "222:450.8 223:450 224:4d8.8 225:4d8 234:417 235:430 236:49b 237:3f9 238:3a7.4+393.4",
    "239:45f.4+452.4 23a:387.8 23b:3a0.8 23c:3a0 23d:40d.8 23e:496.8 23f:489 240:4db 241:4f8.8",
    "242:4f8 243:395.8 244:4a6.8 245:4be.8 246:3b8.8 247:3b8 248:3fb.8 249:3fb 24a:464.8 24b:464",
    "24c:46b.8 24d:46b 24e:4ce.8 24f:4ce 250:38d 251:38e 252:391 253:39b 254:442 255:3a4 256:3ad",
    "257:3ae 258:3c2 259:3be 25a:3c3 25b:3c0 25c:3c4 25d:3c7 25e:3c8 25f:3fd 260:3da 261:3d5",
    "262:3d7 263:3de 264:3ca 265:4ad 266:3e4 267:3e9 268:3f2 269:3f6 26a:3ee 26b:40f 26c:412",
    "26d:415 26e:419 26f:4b0 270:4b3 271:421 272:42b 273:42f 274:427 275:44c 276:439 277:44e",
    "278:45d 279:46d 27a:46f 27b:470 27c:473 27d:474 27e:476 27f:478 280:468 281:47e 282:488",
    "283:48c 284:3fe 285:491 286:492 287:49d 288:49a 289:4a6 28a:4b4 28b:4ba 28c:4be 28d:4c2",
    "28e:41c 28f:4cd 290:4d9 291:4da 292:4de 293:4e3 294:4f7 295:500 296:508 297:50d 298:50e",
    "299:394 29a:3c9 29b:3db 29c:3e1 29d:3fc 29e:407 29f:409 2a0:463 2a1:506 2a2:507",
    "2a3:3a7.4+4d3.4 2a4:3a7.4+4de.4 2a5:3a7.4+4da.4 2a6:493.4+483.4 2a7:493.4+48c.4",
    "2a8:493.4+3a4.4 2a9:3cb.4+433.4 2aa:408.4+483.4 2ab:408.4+4d3.4 2ac:50f 2ad:510 2ae:4ae",
    "2af:4af 2b0:3e0.14 2b1:3e4.14 2b2:3f8.14 2b3:466.14 2b4:46d.14 2b5:470.14 2b6:47e.14",
    "2b7:4bf.14 2b8:4cc.14 2b9:fb 2ba:fd 2bb:3ea 2bc:4fa 2bd:3eb 2be:4fc 2bf:501 2c0:4f9 2c1:502",
    "2c2:fe 2c3:ff 2c4:100 2c5:101 2c6:102 2c7:103 2c8:104 2c9:105 2ca:106 2cb:107 2cc:108",
    "2cd:109 2ce:10a 2cf:10b 2d0:346 2d1:347 2d2:10c 2d3:10d 2d4:10e 2d5:10f 2d6:112 2d7:113",
    "2d8:ef 2d9:f0 2da:f2 2db:f5 2dc:ec 2dd:f3 2de:114 2df:115 2e0:3de.14 2e1:408.14 2e2:483.14",
    "2e3:4c3.14 2e4:500.14 2e5:116 2e6:117 2e7:118 2e8:119 2e9:11a 2ea:11b 2eb:11c 2ec:11d",
    "2ed:11e 2ee:4fb 2ef:11f 2f0:120 2f1:121 2f2:122 2f3:123 2f4:124 2f5:125 2f6:126 2f7:127",
    "2f8:128 2f9:129 2fa:12a 2fb:12b 2fc:12c 2fd:12d 2fe:12e 2ff:12f 300:~25 301:~24 302:~27",
    "303:~2d 304:~32 305:~3a 306:~26 307:~2e 308:~2b 309:~3b 30a:~29 30b:~2c 30c:~28 30d:~33",
    "30e:~33 30f:~3c 310:~3d 311:~3e 312:~33 313:~22 314:~23 315:~33 316:~34 317:~34 318:~34",
    "319:~34 31a:~33 31b:~3f 31c:~34 31d:~34 31e:~34 31f:~34 320:~34 321:~40 322:~41 323:~42",
    "324:~43 325:~44 326:~45 327:~30 328:~31 329:~34 32a:~34 32b:~34 32c:~34 32d:~46 32e:~47",
    "32f:~34 330:~48 331:~49 332:~21 333:~34 334:~4a 335:~39 336:~35 337:~35 338:~2f 339:~4b",
    "33a:~34 33b:~34 33c:~34 33d:~33 33e:~33 33f:~33 342:~2a 345:~4c 346:~33 347:~34 348:~34",
    "349:~34 34a:~33 34b:~33 34c:~33 34d:~34 34e:~34 350:~33 351:~33 352:~33 353:~34 354:~34",
    "355:~34 356:~34 357:~33 358:~4d 359:~34 35a:~34 35b:~33 35c:~34 35d:~33 35e:~33 35f:~34",
    "360:~4e 361:~4f 362:~34 363:385.4 364:3b4.4 365:3ec.4 366:435.4 367:49e.4 368:39e.4",
    "369:3a7.4 36a:3e0.4 36b:41d.4 36c:466.4 36d:493.4 36e:4b6.4 36f:4c3.4 370:51b.8 371:51b",
    "372:53c.8 373:53c 375:fc 376:518.8 377:518 37a:51e.4 37b:531 37c:530 37d:532 37f:51f.8",
    "384:eb 391:511.8 392:512.8 393:513.8 394:515.8 395:516.8 396:51a.8 397:51c.8 398:51d.8",
    "399:51e.8 39a:520.8 39b:521.8 39c:523.8 39d:524.8 39e:525.8 39f:526.8 3a0:527.8 3a1:52c.8",
    "3a3:52f.8 3a4:533.8 3a5:534.8 3a6:535.8 3a7:536.8 3a8:537.8 3a9:539.8 3b1:511 3b2:512",
    "3b3:513 3b4:515 3b5:516 3b6:51a 3b7:51c 3b8:51d 3b9:51e 3ba:520 3bb:521 3bc:523 3bd:524",
    "3be:525 3bf:526 3c0:527 3c1:52c 3c2:52f.19 3c3:52f 3c4:533 3c5:534 3c6:535 3c7:536 3c8:537",
    "3c9:539 3cf:520.a+511.4+51e.4 3d0:512.4 3d1:51d.4 3d2:534.a 3d5:535.4 3d6:527.4",
    "3d7:520.4+511.4+51e.4 3d8:52b.8 3d9:52b 3da:519.8 3db:519 3dc:517.8 3dd:517 3de:52a.8",
    "3df:52a 3e0:53b.8 3e1:53b 3e2:53e.8 3e3:53e 3e4:53f.8 3e5:53f 3e6:540.8 3e7:540 3e8:541.8",
    "3e9:541 3ea:542.8 3eb:542 3ec:543.8 3ed:543 3ee:544.8 3ef:544 3f0:520.4 3f1:52c.4 3f2:52f.4",
    "3f3:51f 3f4:51d.a 3f5:516.4 3f6:1cc 3f7:53d.8 3f8:53d 3f9:52f.a 3fa:529.8 3fb:529 3fc:52e",
    "3fd:531.8 3fe:530.8 3ff:532.8 402:552.8 404:557.8 405:561.8 406:569.8 408:56c.8 409:57c.8",
    "40a:58a.8 40b:59d.8 40f:5be.8 410:545.8 411:548.8 412:549.8 413:54a.8 414:54f.8 415:556.8",
    "416:558.8 417:55c.8 418:567.8 419:56b.8 41a:56e.8 41b:576.8 41c:580.8 41d:583.8 41e:58c.8",
    "41f:58e.8 420:592.8 421:595.8 422:598.8 423:59e.8 424:5a3.8 425:5a4.8 426:5b0.8 427:5b5.8",
    "428:5bf.8 429:5c1.8 42a:5c5.8 42b:5c7.8 42c:5c8.8 42d:5cc.8 42e:5cd.8 42f:5d0.8 430:545",
    "431:548 432:549 433:54a 434:54f 435:556 436:558 437:55c 438:567 439:56b 43a:56e 43b:576",
    "43c:580 43d:583 43e:58c 43f:58e 440:592 441:595 442:598 443:59e 444:5a3 445:5a4 446:5b0",
    "447:5b5 448:5bf 449:5c1 44a:5c5 44b:5c7 44c:5c8 44d:5cc 44e:5cd 44f:5d0 452:552 454:557",
    "455:561 456:569 458:56c 459:57c 45a:58a 45b:59d 45f:5be 460:5ab.8 461:5ab 462:5ca.8 463:5ca",
    "464:5d2.8 465:5d2 466:5d3.8 467:5d3 468:5d7.8 469:5d7 46a:5d5.8 46b:5d5 46c:5d9.8 46d:5d9",
    "46e:5da.8 46f:5da 470:5db.8 471:5db 472:5dc.8 473:5dc 474:5dd.8 475:5dd 478:5a2.8 479:5a2",
    "47a:5af.8 47b:5af 47c:5ae.8 47d:5ae 47e:5ac.8 47f:5ac 480:591.8 481:591 482:137 483:~50",
    "484:~33 485:~23 486:~22 487:~33 48a:568.8 48b:568 48c:5c9.8 48d:5c9 48e:593.8 48f:593",
    "490:54a.a+~119.4 491:54a.4+~119.4 492:54b.8 493:54b 494:54d.8 495:54d 496:55b.8 497:55b",
    "498:555.8 499:555 49a:56f.8 49b:56f 49c:573.8 49d:573 49e:572.8 49f:572 4a0:571.8 4a1:571",
    "4a2:586.8 4a3:586 4a4:589.8 4a5:589 4a6:590.8 4a7:590 4a8:5df.8 4a9:5df 4aa:597.8 4ab:597",
    "4ac:59b.8 4ad:59b 4ae:59f.8 4af:59f 4b0:5a0.8 4b1:5a0 4b2:5a7.8 4b3:5a7 4b4:5b3.8 4b5:5b3",
    "4b6:5b8.8 4b7:5b8 4b8:5ba.8 4b9:5ba 4ba:5a8.8 4bb:5a8 4bc:5bc.8 4bd:5bc 4be:5bd.8 4bf:5bd",
    "4c0:5e1.8 4c3:570.8 4c4:570 4c5:578.8 4c6:578 4c7:587.8 4c8:587 4c9:585.8 4ca:585 4cb:5b9.8",
    "4cc:5b9 4cd:581.8 4ce:581 4cf:5e1 4d4:547.8 4d5:547 4d8:546.8 4d9:546 4e0:563.8 4e1:563",
    "4e8:58d.8 4e9:58d 4f6:54e.8 4f7:54e 4fa:54c.8 4fb:54c 4fc:5a5.8 4fd:5a5 4fe:5a6.8 4ff:5a6",
    "500:550.8 501:550 502:554.8 503:554 504:55e.8 505:55e 506:565.8 507:565 508:57e.8 509:57e",
    "50a:58b.8 50b:58b 50c:596.8 50d:596 50e:59a.8 50f:59a 510:55f.8 511:55f 512:57a.8 513:57a",
    "514:57f.8 515:57f 516:594.8 517:594 518:5d1.8 519:5d1 51a:575.8 51b:575 51c:5e0.8 51d:5e0",
    "51e:574.8 51f:574 520:57b.8 521:57b 522:588.8 523:588 524:58f.8 525:58f 526:5a9.8 527:5a9",
    "528:584.8 529:584 52a:559.8 52b:559 52c:5b6.8 52d:5b6 52e:579.8 52f:579 531:638.8 532:63a.8",
    "533:63b.8 534:63c.8 535:63d.8 536:63e.8 537:63f.8 538:640.8 539:641.8 53a:642.8 53b:643.8",
    "53c:644.8 53d:645.8 53e:646.8 53f:647.8 540:648.8 541:649.8 542:64a.8 543:64b.8 544:64c.8",
    "545:64d.8 546:64f.8 547:650.8 548:651.8 549:652.8 54a:653.8 54b:654.8 54c:655.8 54d:656.8",
    "54e:657.8 54f:658.8 550:659.8 551:65a.8 552:65b.8 553:65c.8 554:65d.8 555:65e.8 556:65f.8",
    "559:660 55a:e3 55b:e4 55c:35 55d:25 55e:39 55f:e5 560:639 561:638 562:63a 563:63b 564:63c",
    "565:63d 566:63e 567:63f 568:640 569:641 56a:642 56b:643 56c:644 56d:645 56e:646 56f:647",
    "570:648 571:649 572:64a 573:64b 574:64c 575:64d 576:64f 577:650 578:651 579:652 57a:653",
    "57b:654 57c:655 57d:656 57e:657 57f:658 580:659 581:65a 582:65b 583:65c 584:65d 585:65e",
    "586:65f 587:63d.4+65b.4 588:64e 589:31 58a:e 58d:138 58e:139 58f:355 5b0:~52 5b1:~53 5b2:~54",
    "5b3:~55 5b4:~56 5b5:~57 5b6:~58 5b7:~59 5b8:~5a 5b9:~5b 5ba:~5b 5bb:~5c 5bc:~5f 5be:e6",
    "5bf:~60 5c0:e7 5c1:~5e 5c2:~5d 5c3:e8 5c6:e9 5c7:~5a 5d0:661 5d1:662 5d2:663 5d3:664 5d4:665",
    "5d5:666 5d6:667 5d7:668 5d8:669 5d9:66a 5da:66b.19 5db:66b 5dc:66c 5dd:66d.19 5de:66d",
    "5df:66e.19 5e0:66e 5e1:66f 5e2:670 5e3:671.19 5e4:671 5e5:672.19 5e6:672 5e7:673 5e8:674",
    "5e9:675 5ea:676 5ef:66a.4+665.4+666.4+665.4 5f0:666.4+666.4 5f1:666.4+66a.4 5f2:66a.4+66a.4",
    "5f3:55^5 5f4:58^9 606:1e8 607:1ea 608:13a 609:af 60a:b1 60b:356 60c:26 60d:27 60e:13b",
    "60f:13c 61b:2c 61e:32 61f:3a 620:703 621:677 622:678 623:679 624:67c 625:67d 626:67f 627:680",
    "628:682 629:686 62a:687 62b:688 62c:68e 62d:694 62e:695 62f:699 630:69a 631:6a5 632:6a6",
    "633:6b1 634:6b2 635:6b7 636:6b8 637:6bc 638:6bd 639:6bf 63a:6c0 63b:6db 63c:6dc 63d:700",
    "63e:701 63f:702 641:6c3 642:6cb 643:6ce 644:6dd 645:6e2 646:6e3 647:6e9 648:6ef 649:6f9",
    "64a:6fa 64b:~6d 64c:~70 64d:~73 64e:~76 64f:~7a 650:~7d 651:~80 652:~81 653:~82 654:~83",
    "655:~84 656:~86 657:~87 658:~88 659:~8a 65a:~8b 65b:~8c 65c:~8d 65d:~8e 65e:~8f 65f:~85",
    "660:375 661:376 662:377 663:378 664:379 665:37a 666:37b 667:37c 668:37d 669:37e 66a:ad",
    "66b:28 66c:29 66d:a3 66e:681 66f:6ca 670:~98 671:67b 672:67a 673:67e 674:677.4",
    "675:677.4+680.4 676:677.4+6ef.4 677:677.4+6f3.4 678:677.4+6fa.4 679:689 67a:68a 67b:683",
    "67c:68b 67d:68c 67e:684 67f:68d 680:685 681:696 682:697 683:68f 684:690 685:698 686:691",
    "687:693 688:69b 689:69c 68a:69d 68b:69e 68c:69f 68d:6a0 68e:6a1 68f:6a2 690:6a3 691:6a7",
    "692:6a8 693:6a9 694:6aa 695:6ab 696:6ac 697:6ad 698:6ae 699:6af 69a:6b3 69b:6b4 69c:6b5",
    "69d:6b9 69e:6ba 69f:6be 6a0:6c1 6a1:6c4 6a2:6c5 6a3:6c6 6a4:6c7 6a5:6c8 6a6:6c9 6a7:6cc",
    "6a8:6cd 6a9:6cf 6aa:6d0 6ab:6d1 6ac:6d2 6ad:6d3 6ae:6d4 6af:6d5 6b0:6d6 6b1:6d7 6b2:6d8",
    "6b3:6d9 6b4:6da 6b5:6de 6b6:6df 6b7:6e0 6b8:6e1 6b9:6e8 6ba:6e4 6bb:6e5 6bc:6e6 6bd:6e7",
    "6be:6ea 6bf:692 6c1:6eb 6c3:6ec 6c4:6f0 6c5:6f1 6c6:6f2 6c7:6f3 6c8:6f4 6c9:6f5 6ca:6f6",
    "6cb:6f7 6cc:6fb 6cd:6fc 6ce:6fd 6cf:6f8 6d0:6fe 6d1:6ff 6d2:704 6d4:3e 6d5:6ee 6de:13d",
    "6e5:6ef.4 6e6:6fa.4 6e9:13e 6ee:6a4 6ef:6b0 6f0:375 6f1:376 6f2:377 6f3:378 6f4:379 6f5:37a",
    "6f6:37b 6f7:37c 6f8:37d 6f9:37e 6fa:6b6 6fb:6bb 6fc:6c2 6fd:677.4+~119.4 6fe:6e2.4+~119.4",
    "6ff:6ed 10a0:5e3.8 10a1:5e5.8 10a2:5e7.8 10a3:5e9.8 10a4:5eb.8 10a5:5ed.8 10a6:5ef.8",
    "10a7:5f3.8 10a8:5f5.8 10a9:5f7.8 10aa:5f9.8 10ab:5fb.8 10ac:5fd.8 10ad:601.8 10ae:603.8",
    "10af:605.8 10b0:607.8 10b1:609.8 10b2:60b.8 10b3:60f.8 10b4:611.8 10b5:613.8 10b6:615.8",
    "10b7:617.8 10b8:619.8 10b9:61b.8 10ba:61d.8 10bb:61f.8 10bc:621.8 10bd:623.8 10be:625.8",
    "10bf:629.8 10c0:62b.8 10c1:5f1.8 10c2:5ff.8 10c3:60d.8 10c4:627.8 10c5:62d.8 10c7:630.8",
    "10cd:635.8 10d0:5e2 10d1:5e4 10d2:5e6 10d3:5e8 10d4:5ea 10d5:5ec 10d6:5ee 10d7:5f2 10d8:5f4",
    "10d9:5f6 10da:5f8 10db:5fa 10dc:5fc 10dd:600 10de:602 10df:604 10e0:606 10e1:608 10e2:60a",
    "10e3:60e 10e4:610 10e5:612 10e6:614 10e7:616 10e8:618 10e9:61a 10ea:61c 10eb:61e 10ec:620",
    "10ed:622 10ee:624 10ef:628 10f0:62a 10f1:5f0 10f2:5fe 10f3:60c 10f4:626 10f5:62c 10f6:62e",
    "10f7:62f 10f8:631 10f9:632 10fa:633 10fb:45 10fc:5fc.14 10fd:634 10fe:636 10ff:637",
    "1c80:549.4 1c81:54f.4 1c82:58c.4 1c83:595.4 1c84:598.4 1c85:598.4 1c86:5c5.4 1c87:5ca.4",
    "1c88:5a1.4 1c90:5e2.8 1c91:5e4.8 1c92:5e6.8 1c93:5e8.8 1c94:5ea.8 1c95:5ec.8 1c96:5ee.8",
    "1c97:5f2.8 1c98:5f4.8 1c99:5f6.8 1c9a:5f8.8 1c9b:5fa.8 1c9c:5fc.8 1c9d:600.8 1c9e:602.8",
    "1c9f:604.8 1ca0:606.8 1ca1:608.8 1ca2:60a.8 1ca3:60e.8 1ca4:610.8 1ca5:612.8 1ca6:614.8",
    "1ca7:616.8 1ca8:618.8 1ca9:61a.8 1caa:61c.8 1cab:61e.8 1cac:620.8 1cad:622.8 1cae:624.8",
    "1caf:628.8 1cb0:62a.8 1cb1:5f0.8 1cb2:5fe.8 1cb3:60c.8 1cb4:626.8 1cb5:62c.8 1cb6:62e.8",
    "1cb7:62f.8 1cb8:631.8 1cb9:632.8 1cba:633.8 1cbd:634.8 1cbe:636.8 1cbf:637.8 1d00:386",
    "1d01:38a 1d02:38b 1d03:397 1d04:39f 1d05:3a8 1d06:3a9 1d07:3b5 1d08:3c6 1d09:3f1 1d0a:3fa",
    "1d0b:400 1d0c:40b 1d0d:41e 1d0e:429 1d0f:436 1d10:443 1d11:437 1d12:444 1d13:440 1d14:43a",
    "1d15:451 1d16:449 1d17:44a 1d18:454 1d19:46a 1d1a:46e 1d1b:494 1d1c:49f 1d1d:4a1 1d1e:4a2",
    "1d1f:4b2 1d20:4b7 1d21:4c0 1d22:4d4 1d23:4df 1d24:503 1d25:504 1d26:514 1d27:522 1d28:528",
    "1d29:52d 1d2a:538 1d2b:577 1d2c:385.1d 1d2d:385.14+~118.14+3b4.14 1d2e:393.1d 1d2f:396",
    "1d30:3a7.1d 1d31:3b4.1d 1d32:3bc.1d 1d33:3d4.1d 1d34:3e0.1d 1d35:3ec.1d 1d36:3f8.1d",
    "1d37:3ff.1d 1d38:408.1d 1d39:41d.1d 1d3a:426.1d 1d3b:428 1d3c:435.1d 1d3d:450.1d 1d3e:452.1d",
    "1d3f:466.1d 1d40:493.1d 1d41:49e.1d 1d42:4bf.1d 1d43:385.14 1d44:38d.14 1d45:38e.14",
    "1d46:38b.14 1d47:393.14 1d48:3a7.14 1d49:3b4.14 1d4a:3be.14 1d4b:3c0.14 1d4c:3c6.14",
    "1d4d:3d4.14 1d4e:3f1.14 1d4f:3ff.14 1d50:41d.14 1d51:433.14 1d52:435.14 1d53:442.14",
    "1d54:449.14 1d55:44a.14 1d56:452.14 1d57:493.14 1d58:49e.14 1d59:4a1.14 1d5a:4b0.14",
    "1d5b:4b6.14 1d5c:504.14 1d5d:512.14 1d5e:513.14 1d5f:515.14 1d60:535.14 1d61:536.14",
    "1d62:3ec.15 1d63:466.15 1d64:49e.15 1d65:4b6.15 1d66:512.15 1d67:513.15 1d68:52c.15",
    "1d69:535.15 1d6a:536.15 1d6b:4a3 1d6c:398 1d6d:3ab 1d6e:3cf 1d6f:41f 1d70:42a 1d71:457",
    "1d72:46c 1d73:477 1d74:486 1d75:497 1d76:4d6 1d77:3dc 1d78:583.14 1d79:3d4.4+~119.4",
    "1d7a:493.4+~118.4+3e0.4 1d7b:3f3 1d7c:3f7 1d7d:455 1d7e:4a9 1d7f:4b5 1d80:39a 1d81:3ac",
    "1d82:3d0 1d83:3d9 1d84:401 1d85:414 1d86:420 1d87:42e 1d88:458 1d89:472 1d8a:487 1d8b:48e",
    "1d8c:4b9 1d8d:4c4 1d8e:4d7 1d8f:388 1d90:390 1d91:3af 1d92:3b9 1d93:3c1 1d94:3c5 1d95:3bf",
    "1d96:3f4 1d97:446 1d98:48f 1d99:4aa 1d9a:4e1 1d9b:391.14 1d9c:39e.14 1d9d:3a4.14",
    "1d9e:3a7.14+~118.14 1d9f:3c4.14 1da0:3cb.14 1da1:3fd.14 1da2:3d5.14 1da3:4ad.14 1da4:3f2.14",
    "1da5:3f6.14 1da6:3ee.14 1da7:3f3.14 1da8:3fc.14 1da9:415.14 1daa:414.14 1dab:409.14",
    "1dac:421.14 1dad:4b3.14 1dae:42b.14 1daf:42f.14 1db0:427.14 1db1:44c.14 1db2:45d.14",
    "1db3:488.14 1db4:48c.14 1db5:498.14 1db6:4a6.14 1db7:4b4.14 1db8:49f.14 1db9:4ba.14",
    "1dba:4be.14 1dbb:4d3.14 1dbc:4d9.14 1dbd:4da.14 1dbe:4de.14 1dbf:51d.14 1dc0:~33 1dc1:~33",
    "1dc2:~34 1dc3:~33 1dc4:~33 1dc5:~33 1dc6:~33 1dc7:~33 1dc8:~33 1dc9:~33 1dca:466.4 1dcb:~33",
    "1dcc:~33 1dcd:~33 1dce:~33 1dcf:~34 1dd0:~34 1dd1:~33 1dd2:4ee.4 1dd3:385.4+~118.4",
    "1dd4:385.4+~118.4+3b4.4 1dd5:385.4+435.4 1dd6:385.4+4b6.4 1dd7:39e.4+~30.4 1dd8:3a7.4+~119.4",
    "1dd9:3a7.4+~118.4 1dda:3d4.4 1ddb:3d7.4 1ddc:3ff.4 1ddd:408.4 1dde:409.4 1ddf:41e.4",
    "1de0:426.4 1de1:427.4 1de2:468.4 1de3:466^1 1de4:483.4 1de5:483.4+~119.4 1de6:4d3.4",
    "1de7:38e.4 1de8:393.4 1de9:39d.4 1dea:3be.4 1deb:3cb.4 1dec:410.4 1ded:435.4+~34.4",
    "1dee:452.4 1def:48c.4 1df0:49e.4+~34.4 1df1:4bf.4 1df2:385.4+~2b.4 1df3:435.4+~2b.4",
    "1df4:49e.4+~2b.4 1df5:~33 1df6:~33 1df7:~33 1df8:~33 1df9:~34 1dfb:~33 1dfc:~34 1dfd:~34",
    "1dfe:~33 1dff:~34 1e9a:385.4+4fc.4 1e9c:48a 1e9d:48b 1e9e:483.a+~118.4+483.a 1e9f:3b3",
    "1efa:408.a+408.a 1efb:408.4+408.4 1efc:4bd.8 1efd:4bd 1efe:4d0.8 1eff:4d0 1fbd:f6 1fbf:f6",
    "1fc0:f8 1ffe:f7 2002:9.4 2003:9.4 2004:9.4 2005:9.4 2006:9.4 2007:9.1b 2008:9.4 2009:9.4",
    "200a:9.4 2010:f 2011:f.1b 2012:10 2013:11 2014:12 2015:13 2016:97 2017:c 2018:55^1 2019:55^2",
    "201a:55^3 201b:55^4 201c:58^1 201d:58^2 201e:58^3 201f:58^4 2020:b2 2021:b3 2022:b8 2023:b9",
    "2024:3d.4 2025:3d.4+3d.4 2026:3d.4+3d.4+3d.4 2027:ba 2028:7 2029:8 202f:9.1b 2030:ae 2031:b0",
    "2032:be 2033:be.4+be.4 2034:be.4+be.4+be.4 2035:bf 2036:bf.4+bf.4 2037:bf.4+bf.4+bf.4",
    "2038:c2 2039:56 203a:57 203b:c3 203c:33.4+33.4 203d:3b 203e:a 203f:c4 2040:c6 2041:c8",
    "2042:c9 2043:bb 2044:1e1 2045:61 2046:62 2047:36.4+36.4 2048:36.4+33.4 2049:33.4+36.4",
    "204a:a9 204b:9c 204c:bc 204d:bd 204e:a1 204f:2d 2050:c7 2051:a2 2052:1dd 2053:16 2054:c5",
    "2055:46 2056:47 2057:be.4+be.4+be.4+be.4 2058:48 2059:49 205a:4a 205b:4b 205c:4c 205d:4d",
    "205e:4e 205f:9.4 2070:375.14 2071:3ec.14 2074:379.14 2075:37a.14 2076:37b.14 2077:37c.14",
    "2078:37d.14 2079:37e.14 207a:1d1.14 207b:1dc.14 207c:1d6.14 207d:5b.14 207e:5c.14",
    "207f:426.14 2080:375.15 2081:376.15 2082:377.15 2083:378.15 2084:379.15 2085:37a.15",
    "2086:37b.15 2087:37c.15 2088:37d.15 2089:37e.15 208a:1d1.15 208b:1dc.15 208c:1d6.15",
    "208d:5b.15 208e:5c.15 2090:385.15 2091:3b4.15 2092:435.15 2093:4c3.15 2094:3be.15",
    "2095:3e0.15 2096:3ff.15 2097:408.15 2098:41d.15 2099:426.15 209a:452.15 209b:483.15",
    "209c:493.15 20a0:357 20a1:358 20a2:359 20a3:35a 20a4:35b 20a5:35c 20a6:35d 20a7:453",
    "20a8:466.a+483.4 20a9:35e 20aa:35f 20ab:360 20ac:361 20ad:362 20ae:363 20af:364 20b0:365",
    "20b1:366 20b2:367 20b3:368 20b4:369 20b5:36a 20b6:36b 20b7:36c 20b8:36d 20b9:36e 20ba:36f",
    "20bb:370 20bc:371 20bd:372 20be:373 20bf:374 20d0:~109 20d1:~10a 20d2:~10b 20d3:~10b",
    "20d4:~10c 20d5:~10d 20d6:~10e 20d7:~10f 20d8:~35 20d9:~35 20da:~35 20db:~110 20dc:~111",
    "20dd:~36 20de:~36 20df:~36 20e0:~36 20e1:~112 20e2:~36 20e3:~36 20e4:~36 20e5:~35 20e6:~113",
    "20e7:~114 20e8:~115 20e9:~116 20ea:~35 20eb:~35 20ec:~34 20ed:~34 20ee:~34 20ef:~34 20f0:~33",
    "2100:385.4+a5.4+39e.4 2101:385.4+a5.4+483.4 2102:39e.b 2103:136.4+39e.a 2104:141",
    "2105:39e.4+a5.4+435.4 2106:39e.4+a5.4+49e.4 2107:3c0.a 2108:142 2109:136.4+3cb.a 210a:3d4.5",
    "210b:3e0.b 210c:3e0.b 210d:3e0.b 210e:3e0.5 210f:3e0+~39 2110:3ec.b 2111:3ec.b 2112:408.b",
    "2113:408.5 2114:143 2115:426.b 2116:426.a+435.4 2117:144 2118:145 2119:452.b 211a:45f.b",
    "211b:466.b 211c:466.b 211d:466.b 211e:146 211f:147 2120:483.14+41d.14 2121:493.a+3b4.a+408.a",
    "2122:493.14+41d.14 2123:148 2124:4d3.b 2125:149 2127:14a 2128:4d3.b 2129:14b 212c:393.b",
    "212d:39e.b 212e:14c 212f:3b4.5 2130:3b4.b 2131:3cb.b 2132:3d2.8 2133:41d.b 2134:435.5",
    "2135:661.4 2136:662.4 2137:663.4 2138:664.4 2139:3ec.5 213a:14d 213b:3cb.a+385.a+4c3.a",
    "213c:527.5 213d:513.5 213e:513.b 213f:527.b 2140:1d0.5 2141:14e 2142:14f 2143:150 2144:151",
    "2145:3a7.b 2146:3a7.5 2147:3b4.5 2148:3ec.5 2149:3f8.5 214a:152 214b:26c 214c:153",
    "214d:385.a+a5.4+483.a 214e:3d2 214f:154 2150:376.1e+1e1.1e+37c.1e 2151:376.1e+1e1.1e+37e.1e",
    "2152:376.1e+1e1.1e+376.1e+375.1e 2153:376.1e+1e1.1e+378.1e 2154:377.1e+1e1.1e+378.1e",
    "2155:376.1e+1e1.1e+37a.1e 2156:377.1e+1e1.1e+37a.1e 2157:378.1e+1e1.1e+37a.1e",
    "2158:379.1e+1e1.1e+37a.1e 2159:376.1e+1e1.1e+37b.1e 215a:37a.1e+1e1.1e+37b.1e",
    "215b:376.1e+1e1.1e+37d.1e 215c:378.1e+1e1.1e+37d.1e 215d:37a.1e+1e1.1e+37d.1e",
    "215e:37c.1e+1e1.1e+37d.1e 215f:376.1e+1e1.1e 2160:3ec.a 2161:3ec.a+3ec.a",
    "2162:3ec.a+3ec.a+3ec.a 2163:3ec.a+4b6.a 2164:4b6.a 2165:4b6.a+3ec.a 2166:4b6.a+3ec.a+3ec.a",
    "2167:4b6.a+3ec.a+3ec.a+3ec.a 2168:3ec.a+4c3.a 2169:4c3.a 216a:4c3.a+3ec.a",
    "216b:4c3.a+3ec.a+3ec.a 216c:408.a 216d:39e.a 216e:3a7.a 216f:41d.a 2170:3ec.4",
    "2171:3ec.4+3ec.4 2172:3ec.4+3ec.4+3ec.4 2173:3ec.4+4b6.4 2174:4b6.4 2175:4b6.4+3ec.4",
    "2176:4b6.4+3ec.4+3ec.4 2177:4b6.4+3ec.4+3ec.4+3ec.4 2178:3ec.4+4c3.4 2179:4c3.4",
    "217a:4c3.4+3ec.4 217b:4c3.4+3ec.4+3ec.4 217c:408.4 217d:39e.4 217e:3a7.4 217f:41d.4 2180:37f",
    "2181:380 2182:381 2183:3a5.8 2184:3a5 2185:37b 2186:382 2187:383 2188:384",
    "2189:375.1e+1e1.1e+378.1e 218a:155 218b:156 2190:157 2191:159 2192:158 2193:15a 2194:15b",
    "2195:15c 2196:15d 2197:15e 2198:15f 2199:160 219c:161 219d:162 219e:163 219f:164 21a0:165",
    "21a1:166 21a2:167 21a3:168 21a4:169 21a5:16a 21a6:16b 21a7:16c 21a8:16d 21a9:16e 21aa:16f",
    "21ab:170 21ac:171 21ad:172 21af:173 21b0:174 21b1:175 21b2:176 21b3:177 21b4:178 21b5:179",
    "21b6:17a 21b7:17b 21b8:17c 21b9:17d 21ba:17e 21bb:17f 21bc:180 21bd:181 21be:182 21bf:183",
    "21c0:184 21c1:185 21c2:186 21c3:187 21c4:188 21c5:189 21c6:18a 21c7:18b 21c8:18c 21c9:18d",
    "21ca:18e 21cb:18f 21cc:190 21d0:191 21d1:192 21d2:193 21d3:194 21d4:195 21d5:196 21d6:197",
    "21d7:198 21d8:199 21d9:19a 21da:19b 21db:19c 21dc:19d 21dd:19e 21de:19f 21df:1a0 21e0:1a1",
    "21e1:1a2 21e2:1a3 21e3:1a4 21e4:1a5 21e5:1a6 21e6:1a7 21e7:1a8 21e8:1a9 21e9:1aa 21ea:1ab",
    "21eb:1ac 21ec:1ad 21ed:1ae 21ee:1af 21ef:1b0 21f0:1b1 21f1:1b2 21f2:1b3 21f3:1b4 21f4:1b5",
    "21f5:1b6 21f6:1b7 21f7:1b8 21f8:1b9 21f9:1ba 21fa:1bb 21fb:1bc 21fc:1bd 21fd:1be 21fe:1bf",
    "21ff:1c0 2200:1c1 2201:1c2 2202:1c3 2203:1c4 2205:1c5 2206:1c6 2207:1c7 2208:1c8 220a:1c9",
    "220b:1ca 220d:1cb 220e:1cd 220f:1ce 2210:1cf 2211:1d0 2212:1dc 2213:1de 2214:1df 2215:1e0",
    "2216:1e2 2217:1e3 2218:1e4 2219:1e5 221a:1e6 221b:1e7 221c:1e9 221d:1eb 221e:1ec 221f:1ed",
    "2220:1ee 2221:1ef 2222:1f0 2223:1f1 2225:1f2 2227:1f3 2228:1f4 2229:1f5 222a:1f6 222b:1f7",
    "222c:1f7.4+1f7.4 222d:1f7.4+1f7.4+1f7.4 222e:1f8 222f:1f8.4+1f8.4 2230:1f8.4+1f8.4+1f8.4",
    "2231:1f9 2232:1fa 2233:1fb 2234:1fc 2235:1fd 2236:1fe 2237:1ff 2238:200 2239:201 223a:202",
    "223b:203 223c:204 223d:205 223e:206 223f:207 2240:208 2242:209 2243:20a 2245:20b 2246:20c",
    "2248:20d 224a:20e 224b:20f 224c:210 224d:211 224e:212 224f:213 2250:214 2251:215 2252:216",
    "2253:217 2254:218 2255:219 2256:21a 2257:21b 2258:21c 2259:21d 225a:21e 225b:21f 225c:220",
    "225d:221 225e:222 225f:223 2261:224 2263:225 2264:226 2265:227 2266:228 2267:229 2268:22a",
    "2269:22b 226a:22c 226b:22d 226c:22e 2272:22f 2273:230 2276:231 2277:232 227a:233 227b:234",
    "227c:235 227d:236 227e:237 227f:238 2282:239 2283:23a 2286:23b 2287:23c 228a:23d 228b:23e",
    "228c:23f 228d:240 228e:241 228f:242 2290:243 2291:244 2292:245 2293:246 2294:247 2295:248",
    "2296:249 2297:24a 2298:24b 2299:24c 229a:24d 229b:24e 229c:24f 229d:250 229e:251 229f:252",
    "22a0:253 22a1:254 22a2:255 22a3:256 22a4:257 22a5:258 22a6:259 22a7:25a 22a8:25b 22a9:25c",
    "22aa:25d 22ab:25e 22b0:25f 22b1:260 22b2:261 22b3:262 22b4:263 22b5:264 22b6:265 22b7:266",
    "22b8:267 22b9:268 22ba:269 22bb:26a 22bc:26b 22bd:26d 22be:26e 22bf:26f 22c0:270 22c1:271",
    "22c2:272 22c3:273 22c4:274 22c5:275 22c6:276 22c7:277 22c8:278 22c9:279 22ca:27a 22cb:27b",
    "22cc:27c 22cd:27d 22ce:27e 22cf:27f 22d0:280 22d1:281 22d2:282 22d3:283 22d4:284 22d5:285",
    "22d6:286 22d7:287 22d8:288 22d9:289 22da:28a 22db:28b 22dc:28c 22dd:28d 22de:28e 22df:28f",
    "22e4:290 22e5:291 22e6:292 22e7:293 22e8:294 22e9:295 22ee:296 22ef:297 22f0:298 22f1:299",
    "22f2:29a 22f3:29b 22f4:29c 22f5:29d 22f6:29e 22f7:29f 22f8:2a0 22f9:2a1 22fa:2a2 22fb:2a3",
    "22fc:2a4 22fd:2a5 22fe:2a6 22ff:2a7 2460:376.6 2461:377.6 2462:378.6 2463:379.6 2464:37a.6",
    "2465:37b.6 2466:37c.6 2467:37d.6 2468:37e.6 2469:376.6+375.6 246a:376.6+376.6",
    "246b:376.6+377.6 246c:376.6+378.6 246d:376.6+379.6 246e:376.6+37a.6 246f:376.6+37b.6",
    "2470:376.6+37c.6 2471:376.6+37d.6 2472:376.6+37e.6 2473:377.6+375.6 2474:5b.4+376.4+5c.4",
    "2475:5b.4+377.4+5c.4 2476:5b.4+378.4+5c.4 2477:5b.4+379.4+5c.4 2478:5b.4+37a.4+5c.4",
    "2479:5b.4+37b.4+5c.4 247a:5b.4+37c.4+5c.4 247b:5b.4+37d.4+5c.4 247c:5b.4+37e.4+5c.4",
    "247d:5b.4+376.4+375.4+5c.4 247e:5b.4+376.4+376.4+5c.4 247f:5b.4+376.4+377.4+5c.4",
    "2480:5b.4+376.4+378.4+5c.4 2481:5b.4+376.4+379.4+5c.4 2482:5b.4+376.4+37a.4+5c.4",
    "2483:5b.4+376.4+37b.4+5c.4 2484:5b.4+376.4+37c.4+5c.4 2485:5b.4+376.4+37d.4+5c.4",
    "2486:5b.4+376.4+37e.4+5c.4 2487:5b.4+377.4+375.4+5c.4 2488:376.4+3d.4 2489:377.4+3d.4",
    "248a:378.4+3d.4 248b:379.4+3d.4 248c:37a.4+3d.4 248d:37b.4+3d.4 248e:37c.4+3d.4",
    "248f:37d.4+3d.4 2490:37e.4+3d.4 2491:376.4+375.4+3d.4 2492:376.4+376.4+3d.4",
    "2493:376.4+377.4+3d.4 2494:376.4+378.4+3d.4 2495:376.4+379.4+3d.4 2496:376.4+37a.4+3d.4",
    "2497:376.4+37b.4+3d.4 2498:376.4+37c.4+3d.4 2499:376.4+37d.4+3d.4 249a:376.4+37e.4+3d.4",
    "249b:377.4+375.4+3d.4 249c:5b.4+385.4+5c.4 249d:5b.4+393.4+5c.4 249e:5b.4+39e.4+5c.4",
    "249f:5b.4+3a7.4+5c.4 24a0:5b.4+3b4.4+5c.4 24a1:5b.4+3cb.4+5c.4 24a2:5b.4+3d4.4+5c.4",
    "24a3:5b.4+3e0.4+5c.4 24a4:5b.4+3ec.4+5c.4 24a5:5b.4+3f8.4+5c.4 24a6:5b.4+3ff.4+5c.4",
    "24a7:5b.4+408.4+5c.4 24a8:5b.4+41d.4+5c.4 24a9:5b.4+426.4+5c.4 24aa:5b.4+435.4+5c.4",
    "24ab:5b.4+452.4+5c.4 24ac:5b.4+45f.4+5c.4 24ad:5b.4+466.4+5c.4 24ae:5b.4+483.4+5c.4",
    "24af:5b.4+493.4+5c.4 24b0:5b.4+49e.4+5c.4 24b1:5b.4+4b6.4+5c.4 24b2:5b.4+4bf.4+5c.4",
    "24b3:5b.4+4c3.4+5c.4 24b4:5b.4+4cc.4+5c.4 24b5:5b.4+4d3.4+5c.4 24b6:385.c 24b7:393.c",
    "24b8:39e.c 24b9:3a7.c 24ba:3b4.c 24bb:3cb.c 24bc:3d4.c 24bd:3e0.c 24be:3ec.c 24bf:3f8.c",
    "24c0:3ff.c 24c1:408.c 24c2:41d.c 24c3:426.c 24c4:435.c 24c5:452.c 24c6:45f.c 24c7:466.c",
    "24c8:483.c 24c9:493.c 24ca:49e.c 24cb:4b6.c 24cc:4bf.c 24cd:4c3.c 24ce:4cc.c 24cf:4d3.c",
    "24d0:385.6 24d1:393.6 24d2:39e.6 24d3:3a7.6 24d4:3b4.6 24d5:3cb.6 24d6:3d4.6 24d7:3e0.6",
    "24d8:3ec.6 24d9:3f8.6 24da:3ff.6 24db:408.6 24dc:41d.6 24dd:426.6 24de:435.6 24df:452.6",
    "24e0:45f.6 24e1:466.6 24e2:483.6 24e3:493.6 24e4:49e.6 24e5:4b6.6 24e6:4bf.6 24e7:4c3.6",
    "24e8:4cc.6 24e9:4d3.6 24ea:375.6 24eb:376.6+376.6 24ec:376.6+377.6 24ed:376.6+378.6",
    "24ee:376.6+379.6 24ef:376.6+37a.6 24f0:376.6+37b.6 24f1:376.6+37c.6 24f2:376.6+37d.6",
    "24f3:376.6+37e.6 24f4:377.6+375.6 24f5:376.6 24f6:377.6 24f7:378.6 24f8:379.6 24f9:37a.6",
    "24fa:37b.6 24fb:37c.6 24fc:37d.6 24fd:37e.6 24fe:376.6+375.6 24ff:375.6 25a0:2a9 25a1:2aa",
    "25a2:2ab 25a3:2ac 25a4:2ad 25a5:2ae 25a6:2af 25a7:2b0 25a8:2b1 25a9:2b2 25aa:2b3 25ab:2b4",
    "25ac:2b5 25ad:2b6 25ae:2b7 25af:2b8 25b0:2b9 25b1:2ba 25b2:2bb 25b3:2bc 25b4:2bd 25b5:2be",
    "25b6:2bf 25b7:2c0 25b8:2c1 25b9:2c2 25ba:2c3 25bb:2c4 25bc:2c5 25bd:2c6 25be:2c7 25bf:2c8",
    "25c0:2c9 25c1:2ca 25c2:2cb 25c3:2cc 25c4:2cd 25c5:2ce 25c6:2cf 25c7:2d0 25c8:2d1 25c9:2d2",
    "25ca:2d3 25cb:2d4 25cc:2d5 25cd:2d6 25ce:2d7 25cf:2d8 25d0:2d9 25d1:2da 25d2:2db 25d3:2dc",
    "25d4:2dd 25d5:2de 25d6:2df 25d7:2e0 25d8:2e1 25d9:2e2 25da:2e3 25db:2e4 25dc:2e5 25dd:2e6",
    "25de:2e7 25df:2e8 25e0:2e9 25e1:2ea 25e2:2eb 25e3:2ec 25e4:2ed 25e5:2ee 25e6:2ef 25e7:2f0",
    "25e8:2f1 25e9:2f2 25ea:2f3 25eb:2f4 25ec:2f5 25ed:2f6 25ee:2f7 25ef:2f8 25f0:2f9 25f1:2fa",
    "25f2:2fb 25f3:2fc 25f4:2fd 25f5:2fe 25f6:2ff 25f7:300 25f8:301 25f9:302 25fa:303 25fb:304",
    "25fc:305 25fd:306 25fe:307 25ff:308 27c0:30b 27c1:30c 27c2:30d 27c3:30e 27c4:30f 27c5:65",
    "27c6:66 27c7:310 27c8:311 27c9:312 27ca:313 27cb:314 27cc:315 27cd:316 27ce:317 27cf:318",
    "27d0:319 27d1:31a 27d2:31b 27d3:31c 27d4:31d 27d5:31e 27d6:31f 27d7:320 27d8:321 27d9:322",
    "27da:323 27db:324 27dc:325 27dd:326 27de:327 27df:328 27e0:329 27e1:32a 27e2:32b 27e3:32c",
    "27e4:32d 27e5:32e 27e6:67 27e7:68 27e8:69 27e9:6a 27ea:6b 27eb:6c 27ec:6d 27ed:6e 27ee:6f",
    "27ef:70 27f0:32f 27f1:330 27f2:331 27f3:332 27f4:333 27f5:334 27f6:335 27f7:336 27f8:337",
    "27f9:338 27fa:339 27fb:33a 27fc:33b 27fd:33c 27fe:33d 27ff:33e 2c60:40e.8 2c61:40e",
    "2c62:40f.8 2c63:455.8 2c64:474.8 2c65:387 2c66:496 2c67:3e5.8 2c68:3e5 2c69:403.8 2c6a:403",
    "2c6b:4dc.8 2c6c:4dc 2c6d:38e.8 2c6e:421.8 2c6f:38d.8 2c70:391.8 2c71:4bb 2c72:4c1.8 2c73:4c1",
    "2c74:4bc 2c75:3e6.8 2c76:3e6 2c77:45e 2c78:3bb 2c79:471 2c7a:44b 2c7b:3bd 2c7c:3f8.15",
    "2c7d:4b6.1d 2c7e:489.8 2c7f:4db.8 2d00:5e3 2d01:5e5 2d02:5e7 2d03:5e9 2d04:5eb 2d05:5ed",
    "2d06:5ef 2d07:5f3 2d08:5f5 2d09:5f7 2d0a:5f9 2d0b:5fb 2d0c:5fd 2d0d:601 2d0e:603 2d0f:605",
    "2d10:607 2d11:609 2d12:60b 2d13:60f 2d14:611 2d15:613 2d16:615 2d17:617 2d18:619 2d19:61b",
    "2d1a:61d 2d1b:61f 2d1c:621 2d1d:623 2d1e:625 2d1f:629 2d20:62b 2d21:5f1 2d22:5ff 2d23:60d",
    "2d24:627 2d25:62d 2d27:630 2d2d:635 2de0:548.4 2de1:549.4 2de2:54a.4 2de3:54f.4 2de4:558.4",
    "2de5:55c.4 2de6:56e.4 2de7:576.4 2de8:580.4 2de9:583.4 2dea:58c.4 2deb:58e.4 2dec:592.4",
    "2ded:595.4 2dee:598.4 2def:5a4.4 2df0:5b0.4 2df1:5b5.4 2df2:5bf.4 2df3:5c1.4 2df4:5dc.4",
    "2df5:595.4+598.4 2df6:545.4 2df7:556.4 2df8:56d.4 2df9:5a1.4 2dfa:5ca.4 2dfb:5cd.4",
    "2dfc:5cf.4 2dfd:5d3.4 2dfe:5d5.4 2dff:5d9.4 2e00:ca 2e01:cb 2e02:71 2e03:72 2e04:73 2e05:74",
    "2e06:cc 2e07:cd 2e08:ce 2e09:75 2e0a:76 2e0b:cf 2e0c:77 2e0d:78 2e0e:d0 2e0f:d1 2e10:d2",
    "2e11:d3 2e12:d4 2e13:d5 2e14:d6 2e15:d7 2e16:d8 2e17:18 2e18:3c 2e19:54 2e1a:d9 2e1b:da",
    "2e1c:79 2e1d:7a 2e1e:db 2e1f:dc 2e20:7b 2e21:7c 2e22:7d 2e23:7e 2e24:7f 2e25:80 2e26:81",
    "2e27:82 2e28:83 2e29:84 2e2a:4f 2e2b:50 2e2c:51 2e2d:52 2e2e:38 2e2f:5c3 2e30:3f 2e31:43",
    "2e32:20 2e33:44 2e34:1f 2e35:2e 2e36:b4 2e37:b5 2e38:b6 2e39:9a 2e3a:14 2e3b:15 2e3c:40",
    "2e3d:53 2e3e:98 2e3f:9e 2e40:19 2e41:21 2e42:58^5 2e43:17 2e44:dd 2e45:de 2e46:df 2e47:e0",
    "2e48:e1 2e49:2f 2e4a:a7 2e4b:b7 2e4c:22 2e4d:9d 2e4e:23 2e4f:24 2e50:309 2e51:30a 2e52:aa",
    "3000:9.3 3001:2a 3002:41 3003:c0 3004:33f 3005:348 3006:744.4+75a.4 3007:375 3008:85 3009:86",
    "300a:87 300b:88 300c:89 300d:8a 300e:8b 300f:8c 3010:8d 3011:8e 3012:340 3013:341 3014:8f",
    "3015:90 3016:91 3017:92 3018:93 3019:94 301a:95 301b:96 301c:1a 301d:58^6 301e:58^7",
    "301f:58^8 3020:342 3021:376 3022:377 3023:378 3024:379 3025:37a 3026:37b 3027:37c 3028:37d",
    "3029:37e 302a:~101 302b:~102 302c:~103 302d:~104 302e:~105 302f:~106 3030:1b 3031:34a",
    "3032:34a+~37 3033:34b 3034:34b+~37 3035:34c 3036:340.4 3037:343 303b:349 303c:757.4+745.4",
    "303d:c1 303e:344 303f:345 3041:739.d 3042:739.e 3043:73a.d 3044:73a.e 3045:73b.d 3046:73b.e",
    "3047:73c.d 3048:73c.e 3049:73d.d 304a:73d.e 304b:73e.e 304d:73f.e 304f:740.e 3051:741.e",
    "3053:742.e 3055:743.e 3057:744.e 3059:745.e 305b:746.e 305d:747.e 305f:748.e 3061:749.e",
    "3063:74a.d 3064:74a.e 3066:74b.e 3068:74c.e 306a:74d.e 306b:74e.e 306c:74f.e 306d:750.e",
    "306e:751.e 306f:752.e 3072:753.e 3075:754.e 3078:755.e 307b:756.e 307e:757.e 307f:758.e",
    "3080:759.e 3081:75a.e 3082:75b.e 3083:75c.d 3084:75c.e 3085:75d.d 3086:75d.e 3087:75e.d",
    "3088:75e.e 3089:75f.e 308a:760.e 308b:761.e 308c:762.e 308d:763.e 308e:764.d 308f:764.e",
    "3090:765.e 3091:766.e 3092:767.e 3093:768.e 3095:73e.d 3096:741.d 3099:~37 309a:~38 309b:f9",
    "309c:fa 309d:34d 309f:75e.16+760.16 30a0:1c 30a1:739.f 30a2:739.11 30a3:73a.f 30a4:73a.11",
    "30a5:73b.f 30a6:73b.11 30a7:73c.f 30a8:73c.11 30a9:73d.f 30aa:73d.11 30ab:73e.11 30ad:73f.11",
    "30af:740.11 30b1:741.11 30b3:742.11 30b5:743.11 30b7:744.11 30b9:745.11 30bb:746.11",
    "30bd:747.11 30bf:748.11 30c1:749.11 30c3:74a.f 30c4:74a.11 30c6:74b.11 30c8:74c.11",
    "30ca:74d.11 30cb:74e.11 30cc:74f.11 30cd:750.11 30ce:751.11 30cf:752.11 30d2:753.11",
    "30d5:754.11 30d8:755.11 30db:756.11 30de:757.11 30df:758.11 30e0:759.11 30e1:75a.11",
    "30e2:75b.11 30e3:75c.f 30e4:75c.11 30e5:75d.f 30e6:75d.11 30e7:75e.f 30e8:75e.11 30e9:75f.11",
    "30ea:760.11 30eb:761.11 30ec:762.11 30ed:763.11 30ee:764.f 30ef:764.11 30f0:765.11",
    "30f1:766.11 30f2:767.11 30f3:768.11 30f5:73e.f 30f6:741.f 30fb:1d 30fc:34e 30fd:34f",
    "30ff:742.16+74c.16 a640:55d.8 a641:55d a642:560.8 a643:560 a644:562.8 a645:562 a646:56a.8",
    "a647:56a a648:56d.8 a649:56d a64a:5a1.8 a64b:5a1 a64c:5ad.8 a64d:5ad a64e:5c2.8 a64f:5c2",
    "a650:5c6.8 a651:5c6 a652:5cb.8 a653:5cb a654:5ce.8 a655:5ce a656:5cf.8 a657:5cf a658:5d4.8",
    "a659:5d4 a65a:5d6.8 a65b:5d6 a65c:5d8.8 a65d:5d8 a65e:5de.8 a65f:5de a660:5b1.8 a661:5b1",
    "a662:553.8 a663:553 a664:57d.8 a665:57d a666:582.8 a667:582 a668:58c.a a669:58c.4 a66a:58c.a",
    "a66b:58c.4 a66c:58c.a a66d:58c.4 a66e:58c.4 a66f:~51 a673:a4 a674:557.4 a675:567.4",
    "a676:569.4+~2b.4 a677:59e.4 a678:5c5.4 a679:5c7.4 a67a:5c8.4 a67b:5ab.4 a67c:~33 a67d:~33",
    "a67e:e2 a67f:5c4 a680:551.8 a681:551 a682:566.8 a683:566 a684:55a.8 a685:55a a686:5bb.8",
    "a687:5bb a688:564.8 a689:564 a68a:59c.8 a68b:59c a68c:599.8 a68d:599 a68e:5b2.8 a68f:5b2",
    "a690:5b4.8 a691:5b4 a692:5b7.8 a693:5b7 a694:5aa.8 a695:5aa a696:5c0.8 a697:5c0 a698:58c.a",
    "a699:58c.4 a69a:58c.a a69b:58c.4 a69c:5c5.14 a69d:5c8.14 a69e:5a3.4 a69f:5d2.4 a720:130",
    "a721:131 a722:4fd.8 a723:4fd a724:505.8 a725:505 a726:3e8.8 a727:3e8 a728:493.a+4d3.4",
    "a729:493.4+4d3.4 a72a:4f1.8 a72b:4f1 a72c:4f2.8 a72d:4f2 a72e:4f3.8 a72f:4f3 a730:3cc",
    "a731:484 a732:385.a+385.a a733:385.4+385.4 a734:385.a+435.a a735:385.4+435.4",
    "a736:385.a+49e.a a737:385.4+49e.4 a738:385.a+4b6.a a739:385.4+4b6.4 a73a:385.a+~118.4+4b6.a",
    "a73b:385.4+~118.4+4b6.4 a73c:385.a+4cc.a a73d:385.4+4cc.4 a73e:3a6.8 a73f:3a6 a740:404.8",
    "a741:404 a742:405.8 a743:405 a744:406.8 a745:406 a746:40a.8 a747:40a a748:40c.8 a749:40c",
    "a74a:44d.8 a74b:44d a74c:448.8 a74d:448 a74e:435.a+435.a a74f:435.4+435.4 a750:456.8",
    "a751:456 a752:45a.8 a753:45a a754:45b.8 a755:45b a756:461.8 a757:461 a758:462.8 a759:462",
    "a75a:466^1.8 a75b:466^1 a75c:482.8 a75d:482 a75e:4b8.8 a75f:4b8 a760:4b6.a+4cc.a",
    "a761:4b6.4+4cc.4 a762:4dd.8 a763:4dd a764:4e5.8 a765:4e5 a766:4e6.8 a767:4e6 a768:4e8.8",
    "a769:4e8 a76a:4ec.8 a76b:4ec a76c:4ed.8 a76d:4ed a76e:4ee.8 a76f:4ee a770:4ee.14 a771:3b2",
    "a772:418 a773:425 a774:432 a775:480 a776:481 a777:49c a778:4ef a779:3a7.a+~119.4",
    "a77a:3a7.4+~119.4 a77b:3cb.a+~119.4 a77c:3cb.4+~119.4 a77d:3d4.a+~119.4 a77e:3dd.8 a77f:3dd",
    "a780:41a.8 a781:41a a782:466.a+~119.4 a783:466.4+~119.4 a784:483.a+~11a.4 a785:483.4+~11a.4",
    "a786:493.a+~119.4 a787:493.4+~119.4 a788:132 a789:133 a78a:134 a78b:4fe.8 a78c:4fe",
    "a78d:4ad.8 a78e:416 a78f:4ff a790:42d.8 a791:42d a792:3a1.8 a793:3a1 a794:3a2 a795:3e3",
    "a796:399.8 a797:399 a798:3ce.8 a799:3ce a79a:385.a+~2b.4 a79b:385.4+~2b.4 a79c:435.a+~2b.4",
    "a79d:435.4+~2b.4 a79e:49e.a+~2b.4 a79f:49e.4+~2b.4 a7a0:3d4.a+~35.4 a7a1:3d4.4+~35.4",
    "a7a2:3ff.a+~35.4 a7a3:3ff.4+~35.4 a7a4:426.a+~35.4 a7a5:426.4+~35.4 a7a6:466.a+~35.4",
    "a7a7:466.4+~35.4 a7a8:483.a+~35.4 a7a9:483.4+~35.4 a7aa:3e4.8 a7ab:3c4.8 a7ac:3d5.8",
    "a7ad:412.8 a7ae:3ee.8 a7af:460 a7b0:407.8 a7b1:49d.8 a7b2:3fc.8 a7b3:4c9.8 a7b4:39d.8",
    "a7b5:39d a7b6:44f.8 a7b7:44f a7b8:4a8.8 a7b9:4a8 a7ba:389.8 a7bb:389 a7bc:3f5.8 a7bd:3f5",
    "a7be:4ac.8 a7bf:4ac a7c2:4bf^1.8 a7c3:4bf^1 a7c4:3a2.8 a7c5:488.8 a7c6:4d7.8 a7c7:3aa.8",
    "a7c8:3aa a7c9:485.8 a7ca:485 a7f5:3e7.8 a7f6:3e7 a7f7:3f0 a7f8:3e0.14+~39.14",
    "a7f9:435.14+~118.14+3b4.14 a7fa:4b1 a7fb:3d3 a7fc:45c a7fd:423 a7fe:3ef a7ff:424 ab30:38f",
    "ab31:38c ab32:3b6 ab33:3b7 ab34:3ba ab35:3cd ab36:3d6 ab37:413 ab38:410 ab39:411 ab3a:422",
    "ab3b:431 ab3c:434 ab3d:438 ab3e:441 ab3f:445 ab40:43d ab41:43b ab42:43c ab43:43e ab44:43f",
    "ab45:467 ab46:469 ab47:479 ab48:47a ab49:475 ab4a:47b ab4b:47c ab4c:47d ab4d:48d ab4e:4a0",
    "ab4f:4a7 ab50:4a4 ab51:4a5 ab52:4ab ab53:4c9 ab54:4ca ab55:4cb ab56:4c5 ab57:4c6 ab58:4c7",
    "ab59:4c8 ab5a:4d1 ab5b:135 ab5c:3e8.14 ab5d:413.14 ab5e:40f.14 ab5f:4ab.14 ab60:4e9 ab61:4ea",
    "ab62:447 ab63:4eb ab64:392 ab65:53a ab66:3a7.4+4d9.4 ab67:493.4+488.4 ab68:47f ab69:4c2.14",
    "ab6a:110 ab6b:111 fb00:3cb.4+3cb.4 fb01:3cb.4+3ec.4 fb02:3cb.4+408.4 fb03:3cb.4+3cb.4+3ec.4",
    "fb04:3cb.4+3cb.4+408.4 fb05:483.4+~119.4+493.4 fb06:483.4+493.4 fe20:~4f fe22:~4e fe27:~34",
    "fe29:~4e fe2e:~50 fe50:1e.f fe51:2a.f fe52:3d.f fe54:2b.f fe55:30.f fe56:36.f fe57:33.f",
    "fe58:12.f fe59:5b.f fe5a:5c.f fe5b:5f.f fe5c:60.f fe5d:8f.f fe5e:90.f fe5f:ab.f fe60:a8.f",
    "fe61:a0.f fe62:1d1.f fe63:d.f fe64:1d5.f fe65:1d7.f fe66:1d6.f fe68:a6.f fe69:352.f",
    "fe6a:ac.f fe6b:9f.f ff01:33.3 ff02:58.3 ff03:ab.3 ff04:352.3 ff05:ac.3 ff06:a8.3 ff07:55.3",
    "ff08:5b.3 ff09:5c.3 ff0a:a0.3 ff0b:1d1.3 ff0c:1e.3 ff0d:d.3 ff0e:3d.3 ff0f:a5.3 ff10:375.3",
    "ff11:376.3 ff12:377.3 ff13:378.3 ff14:379.3 ff15:37a.3 ff16:37b.3 ff17:37c.3 ff18:37d.3",
    "ff19:37e.3 ff1a:30.3 ff1b:2b.3 ff1c:1d5.3 ff1d:1d6.3 ff1e:1d7.3 ff1f:36.3 ff20:9f.3",
    "ff21:385.9 ff22:393.9 ff23:39e.9 ff24:3a7.9 ff25:3b4.9 ff26:3cb.9 ff27:3d4.9 ff28:3e0.9",
    "ff29:3ec.9 ff2a:3f8.9 ff2b:3ff.9 ff2c:408.9 ff2d:41d.9 ff2e:426.9 ff2f:435.9 ff30:452.9",
    "ff31:45f.9 ff32:466.9 ff33:483.9 ff34:493.9 ff35:49e.9 ff36:4b6.9 ff37:4bf.9 ff38:4c3.9",
    "ff39:4cc.9 ff3a:4d3.9 ff3b:5d.3 ff3c:a6.3 ff3d:5e.3 ff3e:ed.3 ff3f:b.3 ff40:ea.3 ff41:385.3",
    "ff42:393.3 ff43:39e.3 ff44:3a7.3 ff45:3b4.3 ff46:3cb.3 ff47:3d4.3 ff48:3e0.3 ff49:3ec.3",
    "ff4a:3f8.3 ff4b:3ff.3 ff4c:408.3 ff4d:41d.3 ff4e:426.3 ff4f:435.3 ff50:452.3 ff51:45f.3",
    "ff52:466.3 ff53:483.3 ff54:493.3 ff55:49e.3 ff56:4b6.3 ff57:4bf.3 ff58:4c3.3 ff59:4cc.3",
    "ff5a:4d3.3 ff5b:5f.3 ff5c:1d9.3 ff5d:60.3 ff5e:1db.3 ff5f:63.3 ff60:64.3 ff61:41.12",
    "ff62:89.12 ff63:8a.12 ff64:2a.12 ff65:1d.12 ff66:767.12 ff67:739.10 ff68:73a.10 ff69:73b.10",
    "ff6a:73c.10 ff6b:73d.10 ff6c:75c.10 ff6d:75d.10 ff6e:75e.10 ff6f:74a.10 ff70:34e.12",
    "ff71:739.12 ff72:73a.12 ff73:73b.12 ff74:73c.12 ff75:73d.12 ff76:73e.12 ff77:73f.12",
    "ff78:740.12 ff79:741.12 ff7a:742.12 ff7b:743.12 ff7c:744.12 ff7d:745.12 ff7e:746.12",
    "ff7f:747.12 ff80:748.12 ff81:749.12 ff82:74a.12 ff83:74b.12 ff84:74c.12 ff85:74d.12",
    "ff86:74e.12 ff87:74f.12 ff88:750.12 ff89:751.12 ff8a:752.12 ff8b:753.12 ff8c:754.12",
    "ff8d:755.12 ff8e:756.12 ff8f:757.12 ff90:758.12 ff91:759.12 ff92:75a.12 ff93:75b.12",
    "ff94:75c.12 ff95:75d.12 ff96:75e.12 ff97:75f.12 ff98:760.12 ff99:761.12 ff9a:762.12",
    "ff9b:763.12 ff9c:764.12 ff9d:768.12 ff9e:~37.12 ff9f:~38.12 ffa0:71a.12 ffa1:705.12",
    "ffa2:706.12 ffa3:730.12 ffa4:707.12 ffa5:731.12 ffa6:732.12 ffa7:708.12 ffa8:709.12",
    "ffa9:70a.12 ffaa:733.12 ffab:734.12 ffac:735.12 ffad:736.12 ffae:737.12 ffaf:738.12",
    "ffb0:718.12 ffb1:70b.12 ffb2:70c.12 ffb3:70d.12 ffb4:719.12 ffb5:70e.12 ffb6:70f.12",
    "ffb7:710.12 ffb8:711.12 ffb9:712.12 ffba:713.12 ffbb:714.12 ffbc:715.12 ffbd:716.12",
    "ffbe:717.12 ffc2:71b.12 ffc3:71c.12 ffc4:71d.12 ffc5:71e.12 ffc6:71f.12 ffc7:720.12",
    "ffca:721.12 ffcb:722.12 ffcc:723.12 ffcd:724.12 ffce:725.12 ffcf:726.12 ffd2:727.12",
    "ffd3:728.12 ffd4:729.12 ffd5:72a.12 ffd6:72b.12 ffd7:72c.12 ffda:72d.12 ffdb:72e.12",
    "ffdc:72f.12 ffe0:351.3 ffe1:353.3 ffe2:1d8.3 ffe3:ee.3 ffe4:1da.3 ffe5:354.3 ffe6:35e.3",
    "ffe8:2a8.12 ffe9:157.12 ffea:159.12 ffeb:158.12 ffec:15a.12 ffed:2a9.12 ffee:2d4.12"
  ]).map readEntry).toArray

/-- Number of entries at or below `n`, given that it lies between `lo` and `hi`. -/
def entriesUpTo (table : Array (Nat × List Element)) (n lo hi : Nat) : Nat :=
  if lo < hi then
    let mid := (lo + hi) / 2
    if (table.getD mid (0, [])).1 ≤ n then entriesUpTo table n (mid + 1) hi
    else entriesUpTo table n lo mid
  else lo
termination_by hi - lo

/-- The elements of a character that has an entry. -/
def weights? (c : Char) : Option (List Element) :=
  match weightTable[entriesUpTo weightTable c.toNat 0 weightTable.size - 1]? with
  | some (code, elements) => if code = c.toNat then some elements else none
  | none => none

/-- Characters that do not count. -/
def ignoredTable : RangeTable :=
  .ofLines [
    "0-8 e-1f 7f-84 86-9f ad 34f 488-489 591-5af 5bd 5c4-5c5 600-605 610-61a 61c 640 6d6-6dd",
    "6df-6e4 6e7-6e8 6ea-6ed 200b-200f 202a-202e 2060-2064 2066-206f a670-a672 fe00-fe0f fe21",
    "fe23-fe26 fe28 fe2a-fe2d fe2f"]

end JsxCheck.Collation
